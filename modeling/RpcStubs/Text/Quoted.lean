import RpcStubs.Text.Printable

/-!
# Quoted text

The spelling of a text as a string literal: quotes and backslashes are escaped, the usual
controls have their short names, and every other character that would not be shown on its own
is given by its code point.
-/

namespace RpcStubs.Text

def hexDigits (n : Nat) : List Char := Nat.toDigits 16 n

/-- A character by its code point, `\u` and the number in braces. -/
def unicodeEscape (c : Char) : List Char :=
  ['\\', 'u', '{'] ++ hexDigits c.toNat ++ ['}']

def escapeChar (c : Char) : List Char :=
  if c = '\x00' then ['\\', '0']
  else if c = '\t' then ['\\', 't']
  else if c = '\r' then ['\\', 'r']
  else if c = '\n' then ['\\', 'n']
  else if c = '\\' then ['\\', '\\']
  else if c = '"' then ['\\', '"']
  else if isPlain c then [c]
  else unicodeEscape c

def quotedChars (cs : List Char) : List Char :=
  '"' :: cs.flatMap escapeChar ++ ['"']

def quoted (s : String) : String := String.ofList (quotedChars s.toList)

end RpcStubs.Text
