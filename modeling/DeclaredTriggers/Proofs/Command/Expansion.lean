import DeclaredTriggers.Command.Expansion
import DeclaredTriggers.Proofs.Act
import DeclaredTriggers.Proofs.Sql.Concurrent
import DeclaredTriggers.Proofs.Sql.DollarQuotes

/-!
# Layouts of a text

A text that may refer to variables is laid out from the left: a stretch without a dollar sign in front of a brace,
a reference up to the next closing brace, and so on (`Layout`). There is one layout of every text:

> `Layout.text_read`, `Layout.read_text`: reading a layout off a text and writing it down are inverse.

What a text stands for is what its layout does:

> `expand_eq`: the stretches are kept and the references replaced, up to the first that cannot be.
>
> `expand_exact`: this comes to an end exactly if every reference is closed, named and set. It can be done to two
> texts apart unless their parts grow together at the seam.
-/

namespace DeclaredTriggers

namespace Text

theorem not_infix_of_splitFirst?_none {sep s : List Char} (h : splitFirst? sep s = none) : ¬sep <:+: s := by
  rw [← occurs_iff, occurs, h]
  exact Bool.false_ne_true

theorem not_infix_of_splitFirst? {sep s before rest : List Char} (hsep : sep ≠ [])
    (h : splitFirst? sep s = some (before, rest)) : ¬sep <:+: before := by
  rw [← occurs_iff, occurs_of_splitFirst? hsep h]
  exact Bool.false_ne_true

/-- A text is split where `sep` stands if no part of it in front is the beginning of another one. -/
theorem splitFirst?_append_of_not_infix {sep a : List Char} (h : ¬sep <:+: a ++ sep.dropLast) (b : List Char) :
    splitFirst? sep (a ++ (sep ++ b)) = some (a, b) := by
  induction a with
  | nil =>
    cases sep with
    | nil => exact absurd List.nil_infix h
    | cons c sep => rw [List.nil_append, List.cons_append, splitFirst?, ← List.cons_append, strip?_append]
  | cons c a ih =>
    have hstrip : strip? sep (c :: (a ++ (sep ++ b))) = none := by
      rw [Option.eq_none_iff_forall_ne_some]
      intro rest hrest
      refine h (List.IsPrefix.isInfix ?_)
      have hwhole : c :: a ++ sep.dropLast <+: c :: (a ++ (sep ++ b)) := by
        rw [List.cons_append, ← List.append_assoc]
        exact List.cons_prefix_cons.2 ⟨rfl, ((List.prefix_append_right_inj a).2 sep.dropLast_prefix).trans
          (List.prefix_append _ b)⟩
      -- what begins here ends in front of the last character of `sep`
      refine List.prefix_of_prefix_length_le ⟨rest, (eq_append_of_strip? hrest).symm⟩ hwhole ?_
      rw [List.length_append, List.length_dropLast, List.length_cons]
      omega
    rw [List.cons_append, splitFirst?, hstrip, ih fun ha => h (ha.trans (List.suffix_cons _ _).isInfix)]
    rfl

end Text

namespace Command

/-! ## Layouts -/

/-- A stretch of text with no dollar sign in front of a brace. -/
abbrev Stretch := { s : List Char // ¬['$', '\x7b'] <:+: s }

/-- What can stand between a dollar sign with a brace and the next closing brace. -/
abbrev Key := { key : List Char // '\x7d' ∉ key }

/-- How a text is made of stretches and references. -/
inductive Layout where
  | last (stretch : Stretch)
  /-- The reference is not closed up to the end of the text. -/
  | unclosed (stretch : Stretch) (key : Key)
  | reference (stretch : Stretch) (key : Key) (rest : Layout)

namespace Layout

/-- The text that is laid out. -/
def text : Layout → List Char
  | last stretch => stretch
  | unclosed stretch key => stretch.1 ++ '$' :: '\x7b' :: key
  | reference stretch key rest => stretch.1 ++ '$' :: '\x7b' :: (key.1 ++ '\x7d' :: rest.text)

/-- The names in the references that are closed. -/
def keys : Layout → List String
  | last _ => []
  | unclosed _ _ => []
  | reference _ key rest => String.ofList key :: rest.keys

/-- The stretches, with what the variables hold between them. -/
def filled (env : Environment) : Layout → List Char
  | last stretch => stretch
  | unclosed stretch _ => stretch
  | reference stretch key rest => stretch.1 ++ ((env (String.ofList key)).getD "").toList ++ rest.filled env

/-- What the text stands for, up to the first reference that stands for nothing. -/
def value (env : Environment) : Layout → Except ExpansionFault (List Char)
  | last stretch => pure stretch
  | unclosed _ key => throw (.unclosed (String.ofList key))
  | reference stretch key rest => do
    let value ← (Piece.reference (String.ofList key)).value env
    let values ← rest.value env
    pure (stretch.1 ++ value ++ values)

/-- The layout of a text. -/
def read (s : List Char) : Layout :=
  match hopen : Text.splitFirst? ['$', '\x7b'] s with
  | none => last ⟨s, Text.not_infix_of_splitFirst?_none hopen⟩
  | some (stretch, behind) =>
    have hstretch := Text.not_infix_of_splitFirst? (List.cons_ne_nil _ _) hopen
    match hclose : Text.splitFirst? ['\x7d'] behind with
    | none =>
      have hkey := Text.not_infix_of_splitFirst?_none hclose
      unclosed ⟨stretch, hstretch⟩ ⟨behind, mt (List.singleton_infix_iff _ _).2 hkey⟩
    | some (key, rest) =>
      have hkey := Text.not_infix_of_splitFirst? (List.cons_ne_nil _ _) hclose
      reference ⟨stretch, hstretch⟩ ⟨key, mt (List.singleton_infix_iff _ _).2 hkey⟩ (read rest)
termination_by s.length
decreasing_by
  rw [Text.eq_of_splitFirst? hopen, Text.eq_of_splitFirst? hclose]
  simp only [List.length_append, List.length_cons]
  omega

theorem text_read (s : List Char) : (read s).text = s := by
  fun_induction read s with
  | case1 s hopen => rfl
  | case2 s stretch behind hopen hstretch hclose hkey =>
    rw [text, Text.eq_of_splitFirst? hopen]
    simp
  | case3 s stretch behind hopen hstretch key rest hclose hkey ih =>
    rw [text, ih, Text.eq_of_splitFirst? hopen, Text.eq_of_splitFirst? hclose]
    simp

theorem splitFirst?_stretch (stretch : Stretch) (behind : List Char) :
    Text.splitFirst? ['$', '\x7b'] (stretch.1 ++ '$' :: '\x7b' :: behind) = some (stretch.1, behind) := by
  refine Text.splitFirst?_append_of_not_infix (fun h => ?_) behind
  rcases List.infix_concat_iff.1 h with h | h
  · obtain ⟨t, ht⟩ := h
    simpa using congrArg List.getLast? ht
  · exact stretch.2 h

theorem splitFirst?_key (key : Key) (behind : List Char) :
    Text.splitFirst? ['\x7d'] (key.1 ++ '\x7d' :: behind) = some (key.1, behind) := by
  refine Text.splitFirst?_append_of_not_infix ?_ behind
  rw [List.dropLast_singleton, List.append_nil]
  exact mt (List.singleton_infix_iff _ _).1 key.2

theorem read_text (l : Layout) : read l.text = l := by
  induction l with
  | last stretch =>
    rw [text, read]
    split
    next => rfl
    next hopen => exact absurd ⟨_, _, (Text.eq_of_splitFirst? hopen).symm⟩ stretch.2
  | unclosed stretch key =>
    rw [text, read]
    split
    next hopen =>
      rw [splitFirst?_stretch] at hopen
      cases hopen
    next hopen =>
      rw [splitFirst?_stretch] at hopen
      cases hopen
      split
      next => rfl
      next hclose =>
        have hmem : '\x7d' ∈ key.1 := by
          rw [Text.eq_of_splitFirst? hclose]
          simp
        exact absurd hmem key.2
  | reference stretch key rest ih =>
    rw [text, read]
    split
    next hopen =>
      rw [splitFirst?_stretch] at hopen
      cases hopen
    next hopen =>
      rw [splitFirst?_stretch] at hopen
      cases hopen
      split
      next hclose =>
        rw [splitFirst?_key] at hclose
        cases hclose
      next hclose =>
        rw [splitFirst?_key] at hclose
        cases hclose
        rw [ih]

end Layout

/-! ## Pieces of a layout -/

theorem pieces_char {c : Char} {s : List Char} (h : c = '$' → s.head? ≠ some '\x7b') :
    pieces none (c :: s) = .char c :: pieces none s := by
  cases s with
  | nil => rfl
  | cons d s =>
    rw [pieces, if_neg]
    simpa using h

/-- A stretch is read character by character if it does not end in the middle of where a reference begins. -/
theorem pieces_stretch {s behind : List Char} (hs : ¬['$', '\x7b'] <:+: s)
    (h : s.getLast? = some '$' → behind.head? ≠ some '\x7b') :
    pieces none (s ++ behind) = s.map .char ++ pieces none behind := by
  induction s with
  | nil => rfl
  | cons c s ih =>
    have hrest : pieces none (s ++ behind) = s.map .char ++ pieces none behind := by
      refine ih (fun hinfix => hs (List.infix_cons hinfix)) fun hlast => h ?_
      rw [List.getLast?_cons, hlast]
      rfl
    rw [List.cons_append, pieces_char, hrest, List.map_cons, List.cons_append]
    -- a dollar sign inside the stretch has no brace behind it, one at the end none in what follows
    rintro rfl
    cases s with
    | nil => exact h rfl
    | cons d s =>
      intro hd
      cases hd
      exact hs ⟨[], s, rfl⟩

theorem pieces_key (before : List Char) {key : List Char} (hkey : '\x7d' ∉ key) (behind : List Char) :
    pieces (some before) (key ++ '\x7d' :: behind) =
      .reference (String.ofList (before.reverse ++ key)) :: pieces none behind := by
  induction key generalizing before with
  | nil => rw [List.nil_append, List.append_nil, pieces, if_pos rfl]
  | cons c key ih =>
    rw [List.mem_cons, not_or] at hkey
    rw [List.cons_append, pieces, if_neg (Ne.symm hkey.1), ih _ hkey.2, List.reverse_cons, List.append_assoc,
      List.singleton_append]

theorem pieces_unclosed (before : List Char) {key : List Char} (hkey : '\x7d' ∉ key) :
    pieces (some before) key = [.unclosed (String.ofList (before.reverse ++ key))] := by
  induction key generalizing before with
  | nil => rw [List.append_nil, pieces]
  | cons c key ih =>
    rw [List.mem_cons, not_or] at hkey
    rw [pieces, if_neg (Ne.symm hkey.1), ih _ hkey.2, List.reverse_cons, List.append_assoc, List.singleton_append]

theorem pieces_reference (behind : List Char) :
    pieces none ('$' :: '\x7b' :: behind) = pieces (some []) behind := by
  rw [pieces, if_pos (by decide)]

/-- The pieces of what is laid out. -/
def Layout.pieces : Layout → List Piece
  | last stretch => stretch.1.map .char
  | unclosed stretch key => stretch.1.map .char ++ [.unclosed (String.ofList key)]
  | reference stretch key rest => stretch.1.map .char ++ .reference (String.ofList key) :: rest.pieces

theorem pieces_behind (stretch : Stretch) (behind : List Char) :
    pieces none (stretch.1 ++ '$' :: '\x7b' :: behind) = stretch.1.map .char ++ pieces (some []) behind := by
  rw [pieces_stretch stretch.2 (fun _ => by simp), pieces_reference]

theorem pieces_text (l : Layout) : pieces none l.text = l.pieces := by
  induction l with
  | last stretch =>
    rw [Layout.text, ← List.append_nil stretch.1, pieces_stretch stretch.2 fun _ => by simp]
    exact List.append_nil _
  | unclosed stretch key =>
    rw [Layout.text, pieces_behind, pieces_unclosed [] key.2]
    rfl
  | reference stretch key rest ih =>
    rw [Layout.text, pieces_behind, pieces_key [] key.2, ih]
    rfl

/-! ## Texts in which every reference is closed -/

/-- Whether every dollar sign in front of a brace is closed by a later brace. -/
def IsClosed (s : List Char) : Prop := ∀ before after, s = before ++ '$' :: '\x7b' :: after → '\x7d' ∈ after

theorem Stretch.isClosed (stretch : Stretch) : IsClosed stretch.1 := by
  intro before after h
  exact absurd ⟨before, after, by rw [h, List.append_assoc]; rfl⟩ stretch.2

/-- What a brace closes ends there. -/
theorem isClosed_append_brace {a s : List Char} : IsClosed (a ++ '\x7d' :: s) ↔ IsClosed s := by
  constructor
  · intro h before after hs
    refine h (a ++ '\x7d' :: before) after ?_
    rw [hs, List.append_assoc]
    rfl
  · intro h before after hs
    rcases List.append_eq_append_iff.1 hs with ⟨between, hbefore, hbehind⟩ | ⟨between, ha, hbehind⟩
    -- the dollar sign stands behind the brace
    · cases between with
      | nil => cases hbehind
      | cons c between =>
        injection hbehind with hc hbehind
        exact h between after hbehind
    -- the dollar sign stands in front of the brace
    · match between with
      | [] => cases hbehind
      | [c] => cases hbehind
      | c :: d :: between =>
        simp only [List.cons_append] at hbehind
        injection hbehind with hc hbehind
        injection hbehind with hd hbehind
        rw [hbehind]
        simp

theorem Layout.text_reference (stretch : Stretch) (key : Key) (rest : Layout) :
    (reference stretch key rest).text = stretch.1 ++ '$' :: '\x7b' :: key.1 ++ '\x7d' :: rest.text := by
  rw [text, List.append_assoc]
  rfl

theorem Layout.isClosed_reference {stretch : Stretch} {key : Key} {rest : Layout} :
    IsClosed (reference stretch key rest).text ↔ IsClosed rest.text := by
  rw [text_reference, isClosed_append_brace]

theorem Layout.not_isClosed_unclosed {stretch : Stretch} {key : Key} : ¬IsClosed (unclosed stretch key).text :=
  fun h => key.2 (h stretch key rfl)

/-- The pieces of two texts are those of the one and those of the other unless they grow together at the seam. -/
theorem pieces_append {a : List Char} (ha : IsClosed a) (hlast : a.getLast? ≠ some '$') (b : List Char) :
    pieces none (a ++ b) = pieces none a ++ pieces none b := by
  obtain ⟨l, rfl⟩ : ∃ l : Layout, l.text = a := ⟨_, Layout.text_read a⟩
  rw [pieces_text]
  induction l with
  | last stretch => exact pieces_stretch stretch.2 (absurd · hlast)
  | unclosed stretch key => exact absurd ha Layout.not_isClosed_unclosed
  | reference stretch key rest ih =>
    -- a brace is in front of the rest, so the text ends in a dollar sign if the rest does
    have hrest : rest.text.getLast? ≠ some '$' := by
      intro h
      refine hlast ?_
      rw [Layout.text_reference, List.getLast?_append, List.getLast?_cons, h]
      rfl
    rw [Layout.text, List.append_assoc, List.cons_append, List.cons_append, List.append_assoc, List.cons_append,
      pieces_behind, pieces_key [] key.2, ih (Layout.isClosed_reference.1 ha) hrest, Layout.pieces,
      List.append_assoc]
    rfl

/-! ## What a text stands for -/

variable (env : Environment)

/-- What pieces stand for. -/
def valueOf (ps : List Piece) : Except ExpansionFault (List Char) := do
  let values ← ps.mapM (·.value env)
  pure values.flatten

theorem valueOf_cons (p : Piece) (ps : List Piece) :
    valueOf env (p :: ps) = (do
      let s ← p.value env
      let t ← valueOf env ps
      pure (s ++ t)) := by
  simp [valueOf]

theorem valueOf_append (ps qs : List Piece) :
    valueOf env (ps ++ qs) = (do
      let s ← valueOf env ps
      let t ← valueOf env qs
      pure (s ++ t)) := by
  simp [valueOf]

theorem valueOf_chars (s : List Char) : valueOf env (s.map .char) = pure s := by
  induction s with
  | nil => rfl
  | cons c s ih =>
    rw [List.map_cons, valueOf_cons, ih]
    rfl

theorem valueOf_pieces (l : Layout) : valueOf env l.pieces = l.value env := by
  induction l with
  | last stretch => exact valueOf_chars env stretch.1
  | unclosed stretch key =>
    rw [Layout.pieces, valueOf_append, valueOf_chars]
    rfl
  | reference stretch key rest ih =>
    rw [Layout.pieces, valueOf_append, valueOf_chars, valueOf_cons, ih]
    simp [Layout.value]

theorem expand_eq_valueOf (text : String) :
    expand env text = (valueOf env (pieces none text.toList)).map String.ofList := by
  unfold expand valueOf
  cases (pieces none text.toList).mapM (·.value env) <;> rfl

/-- A text is expanded along its layout. -/
theorem expand_eq {l : Layout} {text : String} (h : l.text = text.toList) :
    expand env text = (l.value env).map String.ofList := by
  rw [expand_eq_valueOf, ← h, pieces_text, valueOf_pieces]

theorem value_reference_eq_ok_iff {key : String} {s : List Char} :
    (Piece.reference key).value env = .ok s ↔ (key ≠ "" ∧ (env key).isSome) ∧ s = ((env key).getD "").toList := by
  rw [Piece.value]
  split
  next hkey => exact iff_of_false nofun fun h => h.1.1 (String.isEmpty_iff.1 hkey)
  next hkey =>
    rw [String.isEmpty_iff] at hkey
    cases env key with
    | none => exact iff_of_false nofun fun h => nomatch h.1.2
    | some value => exact ⟨fun h => ⟨⟨hkey, rfl⟩, (Except.ok.inj h).symm⟩, fun h => congrArg Except.ok h.2.symm⟩

theorem Layout.value_eq_ok_iff {l : Layout} {s : List Char} :
    l.value env = .ok s ↔
      IsClosed l.text ∧ (∀ key ∈ l.keys, key ≠ "" ∧ (env key).isSome) ∧ s = l.filled env := by
  induction l generalizing s with
  | last stretch =>
    exact ⟨fun h => ⟨stretch.isClosed, nofun, (Except.ok.inj h).symm⟩, fun h => congrArg Except.ok h.2.2.symm⟩
  | unclosed stretch key => exact iff_of_false nofun fun h => not_isClosed_unclosed h.1
  | reference stretch key rest ih =>
    rw [isClosed_reference, keys, List.forall_mem_cons, filled]
    constructor
    · intro h
      obtain ⟨value, hvalue, h⟩ := exists_ok_of_bind h
      obtain ⟨values, hvalues, h⟩ := exists_ok_of_bind h
      obtain ⟨hkey, rfl⟩ := (value_reference_eq_ok_iff env).1 hvalue
      obtain ⟨hclosed, hkeys, rfl⟩ := ih.1 hvalues
      cases h
      exact ⟨hclosed, ⟨hkey, hkeys⟩, rfl⟩
    · rintro ⟨hclosed, ⟨hkey, hkeys⟩, rfl⟩
      rw [value, (value_reference_eq_ok_iff env).2 ⟨hkey, rfl⟩, ih.2 ⟨hclosed, hkeys, rfl⟩]
      rfl

/-- A text has one layout. It can be expanded exactly if each of its references is closed, named and set, and then
the stretches stand there unchanged, with the values between them as they are. Expanding goes through two texts one
after the other if the first has no reference left open and no dollar sign at its end. -/
theorem expand_exact (text : String) :
    (∃! l : Layout, l.text = text.toList) ∧
    (∀ l : Layout, l.text = text.toList → ∀ result,
      expand env text = .ok result ↔
        IsClosed text.toList ∧ (∀ key ∈ l.keys, key ≠ "" ∧ (env key).isSome) ∧
          result = String.ofList (l.filled env)) ∧
    (IsClosed text.toList → text.toList.getLast? ≠ some '$' → ∀ behind,
      expand env (text ++ behind) = (do
        let s ← expand env text
        let t ← expand env behind
        pure (s ++ t))) := by
  refine ⟨⟨Layout.read text.toList, Layout.text_read _, fun l h => ?_⟩, ?_, ?_⟩
  · rw [← h, Layout.read_text]
  · intro l h result
    rw [expand_eq env h, ← h]
    constructor
    · intro hexpand
      cases hvalue : l.value env with
      | error fault =>
        rw [hvalue] at hexpand
        cases hexpand
      | ok s =>
        rw [hvalue] at hexpand
        cases hexpand
        obtain ⟨hclosed, hkeys, rfl⟩ := (Layout.value_eq_ok_iff env).1 hvalue
        exact ⟨hclosed, hkeys, rfl⟩
    · rintro ⟨hclosed, hkeys, rfl⟩
      rw [(Layout.value_eq_ok_iff env).2 ⟨hclosed, hkeys, rfl⟩]
      rfl
  · intro hclosed hlast behind
    rw [expand_eq_valueOf, String.toList_append, pieces_append hclosed hlast, valueOf_append, expand_eq_valueOf,
      expand_eq_valueOf]
    cases valueOf env (pieces none text.toList) with
    | error fault => rfl
    | ok s =>
      cases valueOf env (pieces none behind.toList) with
      | error fault => rfl
      | ok t => exact congrArg Except.ok String.ofList_append

/-- A dollar sign in front of a reference stays, and so does a value that looks like a reference. -/
theorem expand_exact_host :
    expand (fun key => if key = "HOST" then some "$\x7bPORT\x7d" else none) "$$\x7bHOST\x7d/" =
        .ok "$$\x7bPORT\x7d/" ∧
      expand (fun key => if key = "HOST" then some "$\x7bPORT\x7d" else none)
          ("$$\x7bHOST\x7d/" ++ "$\x7bPORT\x7d") = .error (.missing "PORT") := by
  let slash : Stretch := ⟨['/'], by decide⟩
  let l : Layout := .reference ⟨['$'], by decide⟩ ⟨['H', 'O', 'S', 'T'], by decide⟩ (.last slash)
  have htext : l.text = "$$\x7bHOST\x7d/".toList := by decide
  have hclosed : IsClosed "$$\x7bHOST\x7d/".toList := htext ▸ Layout.isClosed_reference.2 slash.isClosed
  obtain ⟨-, hok, happend⟩ :=
    expand_exact (fun key => if key = "HOST" then some "$\x7bPORT\x7d" else none) "$$\x7bHOST\x7d/"
  constructor
  · exact (hok l htext _).2 ⟨hclosed, by decide, by decide⟩
  · rw [happend hclosed (by decide)]
    decide +kernel

end Command

end DeclaredTriggers
