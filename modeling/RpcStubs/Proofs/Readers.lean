import RpcStubs.Proofs.Identifiers

/-!
# What readers give and what they leave

Two ways to speak of a reader. `Ensures` is about every result that it may give, and `Reads` says
that it gives a certain result. Neither depends on the trees that were taken before.
-/

namespace RpcStubs.Idl

namespace Parse

variable {α β : Type} {p : Parse α} {f : α → Parse β} {ts us : List TokenTree}

/-! ## Every result -/

/-- If the reader succeeds, its result and what it leaves are as `Q` says. -/
def Ensures (p : Parse α) (ts : List TokenTree) (Q : α → List TokenTree → Prop) : Prop :=
  ∀ taken r, p.run ⟨ts, taken⟩ = some r → Q r.1 r.2.rest

theorem run_bind (p : Parse α) (f : α → Parse β) (s : ParseState) :
    (p >>= f).run s = (p.run s).bind (fun r => (f r.1).run r.2) := by
  show (p.andThen f).run s = _
  simp only [andThen]
  cases p.run s <;> rfl

theorem Ensures.mono {Q R : α → List TokenTree → Prop} (h : p.Ensures ts Q)
    (hQR : ∀ a us, us <:+ ts → Q a us → R a us) : p.Ensures ts R := by
  intro taken r hr
  exact hQR _ _ (p.leaves _ _ hr) (h taken r hr)

theorem ensures_any {Q : α → List TokenTree → Prop} (h : ∀ a us, us <:+ ts → Q a us) :
    p.Ensures ts Q := by
  intro taken r hr
  exact h _ _ (p.leaves _ _ hr)

theorem ensures_pure {a : α} {Q : α → List TokenTree → Prop} (h : Q a ts) :
    (pure a : Parse α).Ensures ts Q := by
  rintro taken _ ⟨⟩
  exact h

theorem ensures_fail {Q : α → List TokenTree → Prop} : (fail : Parse α).Ensures ts Q := by
  rintro taken r ⟨⟩

theorem ensures_bind {Q : β → List TokenTree → Prop}
    (h : p.Ensures ts (fun a us => (f a).Ensures us Q)) : (p >>= f).Ensures ts Q := by
  intro taken r hr
  rw [run_bind] at hr
  obtain ⟨⟨a, s⟩, ha, hf⟩ := Option.bind_eq_some_iff.mp hr
  exact h taken _ ha s.taken r hf

theorem Ensures.bind {R : α → List TokenTree → Prop} {Q : β → List TokenTree → Prop}
    (hp : p.Ensures ts R) (hf : ∀ a us, us <:+ ts → R a us → (f a).Ensures us Q) :
    (p >>= f).Ensures ts Q :=
  ensures_bind (hp.mono hf)

theorem ensures_after {Q : β → List TokenTree → Prop}
    (h : ∀ a us, us <:+ ts → (f a).Ensures us Q) : (p >>= f).Ensures ts Q :=
  ensures_bind (ensures_any h)

theorem ensures_look {f : List TokenTree → Parse β} {Q : β → List TokenTree → Prop}
    (h : (f ts).Ensures ts Q) : (remaining >>= f).Ensures ts Q := by
  apply ensures_bind
  rintro taken _ ⟨⟩
  exact h

theorem ensures_ite {c : Prop} [Decidable c] {q : Parse α} {Q : α → List TokenTree → Prop}
    (hp : c → p.Ensures ts Q) (hq : ¬c → q.Ensures ts Q) :
    (if c then p else q).Ensures ts Q := by
  split
  · exact hp ‹_›
  · exact hq ‹_›

/-! ## Words, operators and groups -/

theorem ensures_anyWord {Q : String → List TokenTree → Prop}
    (h : ∀ w us, ts = .ident w :: us → Q w us) : anyWord.Ensures ts Q := by
  unfold anyWord
  apply ensures_look
  split
  · rename_i w hw
    rintro taken _ ⟨⟩
    cases ts with
    | nil => cases hw
    | cons t ts =>
      cases t with
      | ident text =>
        cases hw
        exact h w ts rfl
      | punct c joint => cases hw
      | literal lit => cases hw
      | group d trees => cases hw
  · exact ensures_fail

theorem ensures_ident {Q : String → List TokenTree → Prop}
    (h : ∀ w us, ts = .ident w :: us → isIdentifier w = true → Q w us) :
    ident.Ensures ts Q := by
  unfold ident
  apply ensures_look
  split
  · rename_i hident
    apply ensures_anyWord
    rintro w us rfl
    exact h w us rfl hident
  · exact ensures_fail

theorem ensures_operator? {op : String} {Q : Bool → List TokenTree → Prop}
    (hmissing : Q false ts) (hfound : ∀ us, us <:+ ts → nextIs op ts = true → Q true us) :
    (operator? op).Ensures ts Q := by
  unfold operator?
  apply ensures_look
  split
  · rename_i hnext
    apply ensures_after
    intro _ us hus
    exact ensures_pure (hfound us hus hnext)
  · exact ensures_pure hmissing

theorem readAll_eq_some {trees taken : List TokenTree} {a : α}
    (h : readAll p trees = some (a, taken)) : ∃ s, p.run ⟨trees, []⟩ = some (a, s) := by
  unfold readAll at h
  split at h
  · rename_i b s hrun
    split at h
    · cases h
      exact ⟨s, hrun⟩
    · cases h
  · cases h

theorem ensures_group {d : Delimiter} {Q : α → List TokenTree → Prop}
    (h : ∀ us rest, ts = .group d us :: rest → p.Ensures us (fun a _ => Q a rest)) :
    (group d p).Ensures ts Q := by
  unfold group
  apply ensures_look
  split
  · rename_i e trees rest
    split
    · rename_i hd
      subst hd
      split
      · rename_i a taken hread
        obtain ⟨s, hrun⟩ := readAll_eq_some hread
        have hQ := h trees rest rfl [] (a, s) hrun
        apply ensures_bind
        rintro _ _ ⟨⟩
        exact ensures_pure hQ
      · exact ensures_fail
    · exact ensures_fail
  · exact ensures_fail

/-! ## Combinations -/

theorem ensures_captured {Q : α × List TokenTree → List TokenTree → Prop}
    (h : p.Ensures ts (fun a us => ∀ trees, Q (a, trees) us)) : (captured p).Ensures ts Q := by
  intro taken r hr
  simp only [captured] at hr
  split at hr
  · rename_i a s hrun
    cases hr
    exact h [] (a, s) hrun s.taken.reverse
  · cases hr

theorem ensures_aside {Q : α × List TokenTree → List TokenTree → Prop}
    (h : p.Ensures ts (fun a us => ∀ trees, Q (a, trees) us)) : (aside p).Ensures ts Q := by
  intro taken r hr
  simp only [aside] at hr
  split at hr
  · rename_i a s hrun
    cases hr
    exact h [] (a, s) hrun s.taken.reverse
  · cases hr

theorem ensures_ahead {Q : Option α → List TokenTree → Prop} (hnone : Q none ts)
    (hsome : ∀ a, Q (some a) ts) : (ahead p).Ensures ts Q := by
  intro taken r hr
  simp only [ahead] at hr
  split at hr
  · cases hr
    exact hsome _
  · cases hr
    exact hnone

theorem ensures_manyUpTo {R : α → Prop} {stop : List TokenTree → Bool} (fuel : Nat)
    (h : ∀ us, us <:+ ts → p.Ensures us (fun a _ => R a)) :
    (manyUpTo fuel stop p).Ensures ts (fun as _ => ∀ a ∈ as, R a) := by
  induction fuel generalizing ts with
  | zero =>
    unfold manyUpTo
    apply ensures_look
    split
    · exact ensures_pure (by simp)
    · exact ensures_fail
  | succ fuel ih =>
    unfold manyUpTo
    apply ensures_look
    split
    · exact ensures_pure (by simp)
    · refine (h ts List.suffix_rfl).bind ?_
      intro a us hus ha
      refine (ih (fun vs hvs => h vs (hvs.trans hus))).bind ?_
      intro as _ _ has
      exact ensures_pure (List.forall_mem_cons.mpr ⟨ha, has⟩)

theorem ensures_many {R : α → Prop} {stop : List TokenTree → Bool}
    (h : ∀ us, us <:+ ts → p.Ensures us (fun a _ => R a)) :
    (many stop p).Ensures ts (fun as _ => ∀ a ∈ as, R a) :=
  ensures_look (ensures_manyUpTo _ h)

/-! ## One result -/

/-- The reader gives `a` and leaves `us`. -/
def Reads (p : Parse α) (ts us : List TokenTree) (a : α) : Prop :=
  ∀ taken, ∃ later, p.run ⟨ts, taken⟩ = some (a, ⟨us, later⟩)

theorem reads_pure (a : α) : (pure a : Parse α).Reads ts ts a := fun taken => ⟨taken, rfl⟩

theorem Reads.bind {vs : List TokenTree} {a : α} {b : β} (hp : p.Reads ts us a)
    (hf : (f a).Reads us vs b) : (p >>= f).Reads ts vs b := by
  intro taken
  obtain ⟨later, hrun⟩ := hp taken
  obtain ⟨last, hlast⟩ := hf later
  exact ⟨last, by rw [run_bind, hrun, Option.bind_some, hlast]⟩

theorem reads_look {f : List TokenTree → Parse β} {b : β} (h : (f ts).Reads ts us b) :
    (remaining >>= f).Reads ts us b :=
  Reads.bind (fun taken => ⟨taken, rfl⟩) h

theorem Reads.aside {a : α} (h : p.Reads ts us a) :
    ∃ trees, (aside p).Reads ts us (a, trees) := by
  obtain ⟨later, hrun⟩ := h []
  refine ⟨later.reverse, fun taken => ⟨taken, ?_⟩⟩
  simp only [Idl.aside, hrun]

theorem Reads.captured {a : α} (h : p.Reads ts us a) :
    ∃ trees, (captured p).Reads ts us (a, trees) := by
  obtain ⟨later, hrun⟩ := h []
  refine ⟨later.reverse, fun taken => ⟨later ++ taken, ?_⟩⟩
  simp only [Idl.captured, hrun]

theorem Reads.readAll {a : α} (h : p.Reads ts [] a) : ∃ taken, readAll p ts = some (a, taken) := by
  obtain ⟨later, hrun⟩ := h []
  exact ⟨later.reverse, by simp [Idl.readAll, hrun]⟩

theorem reads_replaceTrees (n : Nat) (trees : List TokenTree) :
    (replaceTrees n trees).Reads ts (ts.drop n) () := fun _ => ⟨_, rfl⟩

theorem Reads.group {a : α} (h : p.Reads ts [] a) (d : Delimiter) :
    (group d p).Reads (.group d ts :: us) us a := by
  obtain ⟨taken, hread⟩ := h.readAll
  unfold Idl.group
  apply reads_look
  simp only [hread, if_true]
  exact .bind (reads_replaceTrees 1 _) (reads_pure a)

theorem reads_anyWord (w : String) : anyWord.Reads (.ident w :: us) us w := by
  unfold anyWord
  exact reads_look (.bind (reads_replaceTrees 1 _) (reads_pure w))

theorem reads_operator {op : String} (h : nextIs op ts = true) :
    (operator op).Reads ts (ts.drop op.length) () := by
  unfold operator
  apply reads_look
  rw [if_pos h]
  exact reads_replaceTrees _ _

theorem reads_operator? {op : String} (h : nextIs op ts = true) :
    (operator? op).Reads ts (ts.drop op.length) true := by
  unfold operator?
  apply reads_look
  rw [if_pos h]
  exact .bind (reads_operator h) (reads_pure true)

theorem reads_no_operator {op : String} (h : nextIs op ts = false) :
    (operator? op).Reads ts ts false := by
  unfold operator?
  apply reads_look
  rw [if_neg (by simp [h])]
  exact reads_pure false

theorem reads_manyUpTo {γ : Type} {stop : List TokenTree → Bool} {trees : γ → List TokenTree}
    {value : γ → α} (hread : ∀ x us, p.Reads (trees x ++ us) us (value x))
    (hstop : ∀ x us, stop (trees x ++ us) = false) (hend : stop [] = true) (xs : List γ)
    {fuel : Nat} (hfuel : xs.length ≤ fuel) :
    (manyUpTo fuel stop p).Reads (xs.flatMap trees) [] (xs.map value) := by
  induction xs generalizing fuel with
  | nil =>
    unfold manyUpTo
    apply reads_look
    rw [List.flatMap_nil, if_pos hend]
    exact reads_pure _
  | cons x xs ih =>
    cases fuel with
    | zero => simp at hfuel
    | succ fuel =>
      unfold manyUpTo
      apply reads_look
      rw [List.flatMap_cons, if_neg (by simp [hstop])]
      have hrest := ih (by simpa using hfuel)
      exact (hread x _).bind (hrest.bind (reads_pure _))

end Parse

end RpcStubs.Idl
