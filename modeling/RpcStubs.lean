import RpcStubs.Render.Source
import RpcStubs.Idl.Lexer
import RpcStubs.Idl.Parse
import RpcStubs.Idl.Syntax
import RpcStubs.Idl.Inspect
import RpcStubs.Artifact.Json
import RpcStubs.CommandLine
import RpcStubs.Shell.Run
import RpcStubs.Main
import RpcStubs.Proofs.Arguments
import RpcStubs.Proofs.Lookup
import RpcStubs.Proofs.Linking
import RpcStubs.Proofs.Isolation
import RpcStubs.Proofs.Below
import RpcStubs.Proofs.Contents
import RpcStubs.Proofs.Overwriting
import RpcStubs.Proofs.Listing
import RpcStubs.Proofs.Reordering
import RpcStubs.Proofs.Resolution
import RpcStubs.Proofs.Ways
import RpcStubs.Proofs.AnyOrder
import RpcStubs.Proofs.Capture
import RpcStubs.Proofs.Faults
import RpcStubs.Proofs.ReadBack
import RpcStubs.Proofs.RoundTrip
import RpcStubs.Proofs.Strictness
import RpcStubs.Proofs.CodecNames
import RpcStubs.Proofs.Redeclaring
import RpcStubs.Proofs.CaseTables
import RpcStubs.Proofs.CodecIndex
import RpcStubs.Proofs.CamelCase
import RpcStubs.Proofs.Identifiers
import RpcStubs.Proofs.Readers
import RpcStubs.Proofs.FileTypes
import RpcStubs.Proofs.FileItems
import RpcStubs.Proofs.Lexing
import RpcStubs.Proofs.TypeText
import RpcStubs.Proofs.Nesting
import RpcStubs.Proofs.DocComments
import RpcStubs.Proofs.Bracketing
import RpcStubs.Proofs.MarkerGrammar
import RpcStubs.Proofs.WireNames
