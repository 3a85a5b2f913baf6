import DeclaredTriggers.Proofs.Sql.Fragments

/-!
# Passages that are passed over

Quoted texts, comments and bodies in dollar quotes are passages of a text: one text opens such a passage, another
closes it, and what stands between them is only looked through for the first place where the latter occurs
(`Delimits`). A text is whole where every passage that it opens is closed (`Whole`). A quote that is written twice
needs no rule of its own, since it closes one passage and opens the next.

The scanner has no such jumps. It goes on character by character and remembers how much of the closing text it has
just seen, which is enough because the first character of a closing text does not occur in it again before the last:

> `Mode.Seeks.run_split`: in a passage the scanner gets to the first place where it is closed.
>
> `whole_iff`: a semicolon behind a text would end a statement if and only if the text is whole.
-/

namespace DeclaredTriggers

namespace Text

/-! ## The first place where a text occurs -/

section

variable {d : Char} {tail : List Char}

/-- It does not begin where its first character is missing. -/
theorem splitFirst?_without {u : List Char} (hu : d ∉ u) (s : List Char) :
    splitFirst? (d :: tail) (u ++ s) = (splitFirst? (d :: tail) s).map fun (before, rest) => (u ++ before, rest) := by
  induction u with
  | nil => exact Option.map_id'.symm
  | cons c u ih =>
    rw [List.mem_cons, not_or] at hu
    rw [List.cons_append, splitFirst?, strip?, if_neg hu.1, ih hu.2, Option.map_map]
    rfl

theorem strip?_mismatch {z c : Char} (hc : c ≠ z) (p rest t : List Char) :
    strip? (p ++ z :: rest) (p ++ c :: t) = none := by
  induction p with
  | nil => exact if_neg hc.symm
  | cons x p ih =>
    rw [List.cons_append, List.cons_append, strip?, if_pos rfl]
    exact ih

/-- Nor where it is broken off, nor within what has been seen of it. -/
theorem splitFirst?_mismatch {z c : Char} {p rest : List Char} (hp : d ∉ p) (hc : c ≠ z) (t : List Char) :
    splitFirst? (d :: (p ++ z :: rest)) (d :: (p ++ c :: t)) =
      (splitFirst? (d :: (p ++ z :: rest)) (c :: t)).map fun (before, rest) => (d :: (p ++ before), rest) := by
  have hstrip : strip? (d :: (p ++ z :: rest)) (d :: (p ++ c :: t)) = none := strip?_mismatch hc (d :: p) rest t
  rw [splitFirst?, hstrip, splitFirst?_without hp, Option.map_map]
  rfl

theorem splitFirst?_append_self (c : Char) (closer s : List Char) :
    splitFirst? (c :: closer) (c :: closer ++ s) = some ([], s) := by
  rw [List.cons_append, splitFirst?, ← List.cons_append, strip?_append]

end

/-- A text begins with another, or is the beginning of it, or goes on differently somewhere. -/
theorem begins_or_mismatch (closer t : List Char) :
    (∃ s, t = closer ++ s) ∨ (∃ z rest, closer = t ++ z :: rest) ∨
      ∃ p z rest c s, closer = p ++ z :: rest ∧ t = p ++ c :: s ∧ c ≠ z := by
  induction closer generalizing t with
  | nil => exact .inl ⟨t, rfl⟩
  | cons z closer ih =>
    cases t with
    | nil => exact .inr (.inl ⟨z, closer, rfl⟩)
    | cons c t =>
      by_cases hc : c = z
      · subst hc
        rcases ih t with ⟨s, rfl⟩ | ⟨z, rest, rfl⟩ | ⟨p, z, rest, d, s, rfl, rfl, hd⟩
        · exact .inl ⟨s, rfl⟩
        · exact .inr (.inl ⟨z, rest, rfl⟩)
        · exact .inr (.inr ⟨c :: p, z, rest, d, s, rfl, rfl, hd⟩)
      · exact .inr (.inr ⟨[], z, closer, c, t, rfl, rfl, hc⟩)

end Text

namespace Sql

open Text (splitFirst?)

/-! ## Passages -/

/-- What opens a passage, and what closes it. -/
inductive Delimits : List Char → List Char → Prop
  | quoted {q : Char} (h : q = '\'' ∨ q = '"') : Delimits [q] [q]
  | line : Delimits ['-', '-'] ['\n']
  | block : Delimits ['/', '*'] ['*', '/']
  | body {name : List Char} (h : ∀ c ∈ name, isTagCharacter c) :
    Delimits ('$' :: (name ++ ['$'])) ('$' :: (name ++ ['$']))

/-- Texts in which every passage that is opened is closed. -/
inductive Whole : List Char → Prop
  | nil : Whole []
  | character {c : Char} {s : List Char} (h : ∀ opener closer rest, Delimits opener closer → c :: s ≠ opener ++ rest) :
    Whole s → Whole (c :: s)
  | passage {opener closer t inside s : List Char} (h : Delimits opener closer)
      (hclose : splitFirst? closer t = some (inside, s)) : Whole s → Whole (opener ++ t)

namespace Mode

theorem run_append (m : Mode) (a b : List Char) : m.run (a ++ b) = (m.run a).run b := List.foldl_append

/-! ## Within a passage -/

/-- A mode that goes on until `d :: tail` has been read. -/
structure Seeks (m : Mode) (d : Char) (tail : List Char) (after : Mode) : Prop where
  once : d ∉ tail.dropLast
  found : m.run (d :: tail) = after
  hidden : ∀ p z rest, d :: tail = p ++ z :: rest → (m.run p).isTop = false
  skipped : ∀ c, c ≠ d → m.step c = m
  missed : ∀ p z rest c, tail = p ++ z :: rest → c ≠ z → (m.run (d :: p)).step c = m.step c

section

variable {m after : Mode} {d : Char} {tail : List Char} (h : m.Seeks d tail after)

include h

/-- Where a text goes on differently from what would close the passage, what has been seen of that does not
matter. -/
theorem Seeks.exists_shorter {p rest s : List Char} {z c : Char} (hclose : d :: tail = p ++ z :: rest) (hc : c ≠ z) :
    ∃ u r, r.length < (p ++ c :: s).length ∧ m.run (p ++ c :: s) = m.run r ∧
      splitFirst? (d :: tail) (p ++ c :: s) =
        (splitFirst? (d :: tail) r).map fun (before, rest) => (u ++ before, rest) := by
  cases p with
  | nil =>
    obtain ⟨rfl, -⟩ := List.cons.inj hclose
    refine ⟨[c], s, Nat.lt_succ_self _, congrArg (Mode.run · s) (h.skipped c hc), ?_⟩
    exact Text.splitFirst?_without (mt List.mem_singleton.1 hc.symm) s
  | cons x p =>
    obtain ⟨rfl, htail : tail = p ++ z :: rest⟩ := List.cons.inj hclose
    subst htail
    refine ⟨d :: p, c :: s, ?_, ?_, ?_⟩
    · simp only [List.length_append, List.length_cons]
      omega
    · rw [run_append]
      exact congrArg (Mode.run · s) (h.missed p z rest c rfl hc)
    · have hp : d ∉ p := by
        intro hd
        refine h.once ?_
        rw [List.dropLast_append_cons]
        exact List.mem_append_left _ hd
      exact Text.splitFirst?_mismatch hp hc s

/-- The scanner gets to the first place where a passage is closed, and does not get out of it where there is none. -/
theorem Seeks.run_split (t : List Char) :
    (∀ inside s, splitFirst? (d :: tail) t = some (inside, s) → m.run t = after.run s) ∧
      (splitFirst? (d :: tail) t = none → (m.run t).isTop = false) := by
  induction hn : t.length using Nat.strong_induction_on generalizing t with
  | h n ih =>
    rcases Text.begins_or_mismatch (d :: tail) t with ⟨s, rfl⟩ | ⟨z, rest, hclose⟩ | ⟨p, z, rest, c, s, hclose, rfl, hc⟩
    -- it is closed here
    · rw [Text.splitFirst?_append_self, run_append, h.found]
      exact ⟨fun inside r hr => by cases hr; rfl, nofun⟩
    -- the text ends within what would close it
    · refine ⟨fun inside s hsplit => ?_, fun _ => h.hidden t z rest hclose⟩
      have hlength := congrArg List.length (Text.eq_of_splitFirst? hsplit)
      rw [hclose] at hlength
      simp only [List.length_append, List.length_cons] at hlength
      omega
    -- it is not closed here
    · obtain ⟨u, r, hshort, hrun, hsplit⟩ := h.exists_shorter (s := s) hclose hc
      obtain ⟨hfound, hmissing⟩ := ih r.length (hn ▸ hshort) r rfl
      rw [hrun, hsplit]
      refine ⟨fun inside s hs => ?_, fun hnone => hmissing (Option.map_eq_none_iff.1 hnone)⟩
      obtain ⟨⟨before, rest⟩, hrest, he⟩ := Option.map_eq_some_iff.1 hs
      cases he
      exact hfound before _ hrest

end

/-- What is closed by one character is looked through for that. -/
theorem seeks_singleton {m after : Mode} {d : Char} (hm : m.isTop = false) (hfound : m.step d = after)
    (hskipped : ∀ c, c ≠ d → m.step c = m) : m.Seeks d [] after where
  once := List.not_mem_nil
  found := hfound
  hidden p z rest hclose := by
    cases p with
    | nil => exact hm
    | cons x p => simp at hclose
  skipped := hskipped
  missed p z rest c htail := by simp at htail

theorem seeks_block : Mode.block.Seeks '*' ['/'] .plain where
  once := List.not_mem_nil
  found := rfl
  hidden p z rest hclose := by
    match p with
    | [] => rfl
    | [x] =>
      obtain ⟨rfl, -⟩ := List.cons.inj hclose
      rfl
    | x :: y :: p => simp at hclose
  skipped c hc := if_neg hc
  missed p z rest c htail hc := by
    cases p with
    | nil =>
      obtain ⟨rfl, -⟩ := List.cons.inj htail
      exact if_neg hc
    | cons x p => simp at htail

/-- What has been read of the tag that closes a body need not be read again. -/
theorem run_body (name a b : List Char) :
    (Mode.body name (some (a ++ b))).run a = .body name (some b) := by
  induction a with
  | nil => rfl
  | cons c a ih =>
    have hstep : (Mode.body name (some (c :: a ++ b))).step c = .body name (some (a ++ b)) := if_pos rfl
    show ((Mode.body name (some (c :: a ++ b))).step c).run a = _
    rw [hstep, ih]

/-- Some of a tag and a dollar sign behind it is cut within the tag or behind it. -/
theorem exists_of_append_eq {name p rest : List Char} {z : Char} (h : name ++ ['$'] = p ++ z :: rest) :
    ∃ left, name = p ++ left ∧ left ++ ['$'] = z :: rest := by
  rcases List.append_eq_append_iff.1 h with ⟨q, rfl, hq⟩ | ⟨q, rfl, hq⟩
  · cases q with
    | nil => exact ⟨[], by simp, hq⟩
    | cons x q => simp at hq
  · exact ⟨q, rfl, hq.symm⟩

theorem seeks_body {name : List Char} (h : ∀ c ∈ name, isTagCharacter c) :
    (Mode.body name none).Seeks '$' (name ++ ['$']) .plain := by
  have hrun : ∀ p left, name = p ++ left → (Mode.body name none).run ('$' :: p) = .body name (some left) := by
    intro p left hname
    show (Mode.body name (some name)).run p = _
    conv => lhs; rw [show some name = some (p ++ left) from congrArg some hname]
    exact run_body name p left
  refine ⟨?_, ?_, ?_, fun c hc => ?_, ?_⟩
  · rw [List.dropLast_concat]
    exact fun hd => absurd (h '$' hd) (by decide)
  · rw [← List.cons_append, run_append, hrun name [] (List.append_nil _).symm]
    rfl
  · intro p z rest hclose
    cases p with
    | nil => rfl
    | cons x p =>
      obtain ⟨rfl, htail⟩ := List.cons.inj hclose
      obtain ⟨left, hname, -⟩ := exists_of_append_eq htail
      rw [hrun p left hname]
      rfl
  · show Mode.body name (if c = '$' then _ else _) = _
    rw [if_neg hc]
  · intro p z rest c htail hc
    obtain ⟨left, hname, hleft⟩ := exists_of_append_eq htail
    rw [hrun p left hname]
    cases left with
    | nil =>
      obtain ⟨rfl, -⟩ := List.cons.inj hleft
      show (if c = '$' then _ else _) = Mode.body name (if c = '$' then _ else _)
      rw [if_neg hc, if_neg hc]
    | cons y left =>
      obtain ⟨rfl, -⟩ := List.cons.inj hleft
      exact if_neg hc

/-! ## At either end of a passage -/

theorem isTop_run_unless {m : Mode} {x : Char} (htop : m.isTop = true) (hm : ∀ c, c ≠ x → m.step c = start c)
    {s : List Char} (hs : ∀ rest, s ≠ x :: rest) : (m.run s).isTop = (plain.run s).isTop := by
  cases s with
  | nil => exact htop
  | cons c s =>
    have hc : c ≠ x := fun hc => hs s (by rw [hc])
    exact congrArg (fun m => (m.run s).isTop) (hm c hc)

theorem start_quote {q : Char} (hq : q = '\'' ∨ q = '"') : start q = quoted q := by
  rcases hq with rfl | rfl <;> rfl

/-- Behind a quote that ends a text the scanner goes on as in the middle of nothing: where another one follows,
either begins a text. -/
theorem isTop_run_quoteEnd {q : Char} (hq : q = '\'' ∨ q = '"') (s : List Char) :
    ((quoteEnd q).run s).isTop = (plain.run s).isTop := by
  cases s with
  | nil => rfl
  | cons c s =>
    have hstep : (quoteEnd q).step c = start c := by
      show (if c = q then quoted q else start c) = start c
      split
      next hc => rw [hc, start_quote hq]
      next => rfl
    exact congrArg (fun m => (m.run s).isTop) hstep

theorem run_tag {name : List Char} (h : ∀ c ∈ name, isTagCharacter c) (sofar : List Char) :
    (tag sofar).run (name ++ ['$']) = body (sofar ++ name) none := by
  induction name generalizing sofar with
  | nil =>
    rw [List.append_nil]
    rfl
  | cons c name ih =>
    obtain ⟨hc, hname⟩ := List.forall_mem_cons.1 h
    have hdollar : c ≠ '$' := by
      rintro rfl
      exact absurd hc (by decide)
    have hstep : (tag sofar).step c = tag (sofar ++ [c]) := (if_neg hdollar).trans (if_pos hc)
    show ((tag sofar).step c).run (name ++ ['$']) = _
    rw [hstep, ih hname, List.append_assoc, List.singleton_append]

/-- A dollar sign that opens no body is a character like others. -/
theorem isTop_run_tag {s : List Char}
    (h : ∀ name rest, (∀ c ∈ name, isTagCharacter c) → s ≠ name ++ '$' :: rest) (sofar : List Char) :
    ((tag sofar).run s).isTop = (plain.run s).isTop := by
  induction s generalizing sofar with
  | nil => rfl
  | cons c s ih =>
    have hdollar : c ≠ '$' := fun hc => h [] s nofun (by rw [hc]; rfl)
    by_cases hc : isTagCharacter c
    · have hstep : (tag sofar).step c = tag (sofar ++ [c]) := (if_neg hdollar).trans (if_pos hc)
      have hplain : plain.step c = plain := (word_character hc).2.2
      show (((tag sofar).step c).run s).isTop = ((plain.step c).run s).isTop
      rw [hstep, hplain]
      refine ih (fun name rest hname hs => h (c :: name) rest ?_ (by rw [hs]; rfl)) _
      exact List.forall_mem_cons.2 ⟨hc, hname⟩
    · have hstep : (tag sofar).step c = start c := (if_neg hdollar).trans (if_neg hc)
      exact congrArg (fun m => (m.run s).isTop) hstep

/-- A character that opens no passage leaves the scanner as it is. -/
theorem isTop_run_character {c : Char} {s : List Char}
    (h : ∀ opener closer rest, Delimits opener closer → c :: s ≠ opener ++ rest) :
    (plain.run (c :: s)).isTop = (plain.run s).isTop := by
  show ((start c).run s).isTop = _
  unfold start
  split
  next hq => exact absurd rfl (h [c] [c] s (.quoted (by simpa using hq)))
  next =>
  split
  next hc =>
    refine isTop_run_unless (m := dash) rfl (fun d hd => if_neg hd) fun rest hs => ?_
    exact h _ _ rest .line (by rw [hc, hs]; rfl)
  next =>
  split
  next hc =>
    refine isTop_run_unless (m := slash) rfl (fun d hd => if_neg hd) fun rest hs => ?_
    exact h _ _ rest .block (by rw [hc, hs]; rfl)
  next =>
  split
  next hc =>
    refine isTop_run_tag (fun name rest hname hs => ?_) []
    exact h _ _ rest (.body hname) (by rw [hc, hs]; simp)
  next => rfl

theorem Seeks.isTop_run {m after : Mode} {d : Char} {tail : List Char} (h : m.Seeks d tail after)
    (hafter : ∀ s, (after.run s).isTop = (plain.run s).isTop) (t : List Char) :
    (m.run t).isTop = (splitFirst? (d :: tail) t).any fun parts => (plain.run parts.2).isTop := by
  obtain ⟨hfound, hmissing⟩ := h.run_split t
  cases hsplit : splitFirst? (d :: tail) t with
  | none => exact hmissing hsplit
  | some parts =>
    rw [hfound parts.1 parts.2 hsplit, hafter]
    rfl

/-- Behind what opens a passage, the scanner gets out where the passage is closed. -/
theorem isTop_run_opener {opener closer : List Char} (h : Delimits opener closer) (t : List Char) :
    (plain.run (opener ++ t)).isTop = (splitFirst? closer t).any fun parts => (plain.run parts.2).isTop := by
  cases h with
  | quoted hq =>
    rename_i q
    have hopen : plain.run ([q] ++ t) = (quoted q).run t := congrArg (Mode.run · t) (start_quote hq)
    rw [hopen]
    refine (seeks_singleton rfl ?_ ?_).isTop_run (isTop_run_quoteEnd hq) t
    · exact if_pos rfl
    · exact fun c hc => if_neg hc
  | line =>
    exact (seeks_singleton (m := line) rfl (if_pos rfl) fun c hc => if_neg hc).isTop_run (fun _ => rfl) t
  | block => exact seeks_block.isTop_run (fun _ => rfl) t
  | body hname =>
    rename_i name
    have hopen : plain.run ('$' :: (name ++ ['$']) ++ t) = (body name none).run t := by
      rw [run_append]
      exact congrArg (Mode.run · t) (run_tag hname [])
    rw [hopen]
    exact (seeks_body hname).isTop_run (fun _ => rfl) t

end Mode

/-! ## Whole texts -/

theorem Delimits.opener_ne_nil {opener closer : List Char} (h : Delimits opener closer) : opener ≠ [] := by
  cases h <;> exact List.cons_ne_nil _ _

/-- A semicolon behind a text would end a statement if and only if the text is whole. -/
theorem whole_iff {s : List Char} : Whole s ↔ (Mode.plain.run s).isTop := by
  constructor
  · intro h
    induction h with
    | nil => rfl
    | character hopen _ ih =>
      rw [Mode.isTop_run_character hopen]
      exact ih
    | passage hopen hclose _ ih =>
      rw [Mode.isTop_run_opener hopen, hclose]
      exact ih
  · induction hn : s.length using Nat.strong_induction_on generalizing s with
    | h n ih =>
      intro htop
      by_cases hopen : ∃ opener closer t, Delimits opener closer ∧ s = opener ++ t
      · obtain ⟨opener, closer, t, hdelimits, rfl⟩ := hopen
        rw [Mode.isTop_run_opener hdelimits, Option.any_eq_true] at htop
        obtain ⟨⟨inside, rest⟩, hclose, htop⟩ := htop
        refine .passage hdelimits hclose (ih rest.length ?_ rfl htop)
        have hpos := List.length_pos_iff.2 hdelimits.opener_ne_nil
        rw [← hn, Text.eq_of_splitFirst? hclose]
        simp only [List.length_append]
        omega
      · cases s with
        | nil => exact .nil
        | cons c s =>
          have hnone : ∀ opener closer rest, Delimits opener closer → c :: s ≠ opener ++ rest :=
            fun opener closer rest hdelimits hs => hopen ⟨opener, closer, rest, hdelimits, hs⟩
          rw [Mode.isTop_run_character hnone] at htop
          exact .character hnone (ih s.length (hn ▸ Nat.lt_succ_self _) rfl htop)

end Sql

end DeclaredTriggers
