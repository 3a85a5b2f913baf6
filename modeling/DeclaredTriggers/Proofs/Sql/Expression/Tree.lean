import DeclaredTriggers.Proofs.Sql.Expression.Lexeme
import Mathlib.Data.List.Induction

/-!
# The brackets of an expression

The lexemes of an expression stand in brackets: parentheses and square ones, `CASE … END`, and
`BETWEEN … AND`, whose `AND` joins no conditions. `trees?` reads a text as lexemes and groups of them; it has
no answer where a bracket has no partner.

A text that is read on its own is read alike where it stands among others (`Nests.within`), unless it stands
behind a dot or behind a `BETWEEN` that is open. So what is written with parentheses and keywords is read part
by part:

> `Balanced.joined`: two texts with a lexeme between them.
>
> `Balanced.parenthesised`: a text between parentheses is one group.
-/

namespace DeclaredTriggers.Sql.Expression

open Text (isBlank trim trimStart trimEnd)

/-- A name that stands behind a dot, whatever word it is. -/
def Lexeme.asMember : Lexeme → Lexeme
  | .word text => .name (text.map Char.toLower)
  | t => t

/-- The brackets that lexemes stand in. -/
inductive Bracket where
  | round
  | square
  /-- From `CASE` to `END`. -/
  | choice
  /-- From `BETWEEN` to its `AND`. -/
  | range
  deriving DecidableEq

namespace Bracket

/-- The bracket that a lexeme opens. -/
def ofLexeme? (t : Lexeme) : Option Bracket :=
  if t = .mark '(' then some .round
  else if t = .mark '[' then some .square
  else if t.isKeyword "CASE" then some .choice
  else if t.isKeyword "BETWEEN" then some .range
  else none

/-- Whether a lexeme closes a bracket. -/
def isClosedBy (b : Bracket) (t : Lexeme) : Bool :=
  match b with
  | .round => t = .mark ')'
  | .square => t = .mark ']'
  | .choice => t.isKeyword "END"
  | .range => t.isKeyword "AND"

end Bracket

/-- Whether a lexeme only ever closes a bracket. -/
def Lexeme.isClosing (t : Lexeme) : Bool := t = .mark ')' || t = .mark ']' || t.isKeyword "END"

/-- A lexeme, or what stands between brackets. -/
inductive Tree where
  | leaf (t : Lexeme)
  | group (b : Bracket) (content : List Tree)

/-- Whether a tree is a keyword, in any letter case. -/
def Tree.isKeyword (keyword : String) : Tree → Bool
  | .leaf t => t.isKeyword keyword
  | .group .. => false

/-- Whether a tree is a certain mark. -/
def Tree.isMark (c : Char) : Tree → Bool
  | .leaf t => t = .mark c
  | .group .. => false

/-! ## Nesting -/

/-- The brackets that are open, each with what stands before it, and what stands in the innermost; what was
read last comes first. -/
structure Nesting where
  outer : List (Bracket × List Tree)
  content : List Tree

/-- Whether the last of some trees is a dot; the last comes first. -/
def endsInDot (content : List Tree) : Bool := content.head?.any (Tree.isMark '.')

namespace Nesting

/-- A lexeme in its place: a word behind a dot is a name. -/
def placed (n : Nesting) (t : Lexeme) : Lexeme := if endsInDot n.content then t.asMember else t

/-- The nesting behind a lexeme in its place, which closes a bracket, is one more leaf or has no partner. -/
def closing (n : Nesting) (t : Lexeme) : Option Nesting :=
  match n.outer with
  | (b, before) :: outer =>
    if b.isClosedBy t then some ⟨outer, .group b n.content.reverse :: before⟩
    else if t.isClosing then none
    else some { n with content := .leaf t :: n.content }
  | [] => if t.isClosing then none else some { n with content := .leaf t :: n.content }

/-- The nesting behind one more lexeme. -/
def step (n : Nesting) (t : Lexeme) : Option Nesting :=
  match Bracket.ofLexeme? (n.placed t) with
  | some b => some ⟨(b, n.content) :: n.outer, []⟩
  | none => n.closing (n.placed t)

/-- The nesting behind some lexemes. -/
def run (n : Nesting) : List Lexeme → Option Nesting
  | [] => some n
  | t :: ts => (n.step t).bind fun m => run m ts

theorem run_append (n : Nesting) (ts us : List Lexeme) :
    n.run (ts ++ us) = (n.run ts).bind fun m => m.run us := by
  induction ts generalizing n with
  | nil => rfl
  | cons t ts ih =>
    show (n.step t).bind (fun m => m.run (ts ++ us)) = ((n.step t).bind fun m => m.run ts).bind _
    rw [Option.bind_assoc]
    exact congrArg _ (funext ih)

/-! ## A text among others -/

/-- The brackets of a text on top of those that it stands in. -/
def outerWithin (base : Nesting) : List (Bracket × List Tree) → List (Bracket × List Tree)
  | [] => base.outer
  | [(b, before)] => (b, before ++ base.content) :: base.outer
  | x :: y :: outer => x :: outerWithin base (y :: outer)

/-- The nesting in a text that stands where `base` has come to. -/
def within (base n : Nesting) : Nesting where
  outer := outerWithin base n.outer
  content := if n.outer.isEmpty then n.content ++ base.content else n.content

/-- Whether a text is read here as it is on its own. -/
def isFresh (base : Nesting) : Bool :=
  !endsInDot base.content && !(base.outer.head?.any fun x => x.1 = .range)

theorem placed_within {base : Nesting} (h : base.isFresh) (n : Nesting) (t : Lexeme) :
    (base.within n).placed t = n.placed t := by
  have hdot : endsInDot base.content = false := by
    simp only [isFresh, Bool.and_eq_true, Bool.not_eq_true'] at h
    exact h.1
  have hsame : endsInDot (base.within n).content = endsInDot n.content := by
    unfold within
    cases n.outer with
    | cons x outer => rfl
    | nil =>
      cases n.content with
      | nil => exact hdot
      | cons u content => rfl
  unfold placed
  rw [hsame]

/-- A lexeme that stands alone where no bracket is open closes none where the text stands. -/
theorem closing_within {base : Nesting} (h : base.isFresh) {n m : Nesting} {t : Lexeme}
    (hstep : n.closing t = some m) : (base.within n).closing t = some (base.within m) := by
  obtain ⟨outer, content⟩ := n
  cases outer with
  | nil =>
    unfold closing at hstep
    simp only at hstep
    split at hstep
    next => cases hstep
    next hclosing =>
      obtain rfl := Option.some.inj hstep
      unfold closing within
      simp only [outerWithin]
      cases houter : base.outer with
      | nil => simp [hclosing]
      | cons x rest =>
        obtain ⟨b, before⟩ := x
        have hrange : b ≠ .range := by
          simpa [isFresh, houter] using (Bool.and_eq_true_iff.1 h).2
        have hopen : b.isClosedBy t = false := by
          simp only [Lexeme.isClosing, Bool.or_eq_true, decide_eq_true_eq, not_or] at hclosing
          cases b with
          | round => simp [Bracket.isClosedBy, hclosing.1.1]
          | square => simp [Bracket.isClosedBy, hclosing.1.2]
          | choice => simp [Bracket.isClosedBy, hclosing.2]
          | range => exact absurd rfl hrange
        simp [hopen, hclosing]
  | cons x outer =>
    obtain ⟨b, before⟩ := x
    unfold closing at hstep
    simp only at hstep
    cases outer with
    | nil =>
      unfold closing within
      simp only [outerWithin]
      split at hstep
      next hclosed =>
        obtain rfl := Option.some.inj hstep
        simp [hclosed, outerWithin]
      next hopen =>
        split at hstep
        next => cases hstep
        next hclosing =>
          obtain rfl := Option.some.inj hstep
          simp [hopen, hclosing, outerWithin]
    | cons y outer =>
      unfold closing within
      simp only [outerWithin]
      split at hstep
      next hclosed =>
        obtain rfl := Option.some.inj hstep
        simp [hclosed]
      next hopen =>
        split at hstep
        next => cases hstep
        next hclosing =>
          obtain rfl := Option.some.inj hstep
          simp [hopen, hclosing, outerWithin]

theorem step_within {base : Nesting} (h : base.isFresh) {n m : Nesting} {t : Lexeme}
    (hstep : n.step t = some m) : (base.within n).step t = some (base.within m) := by
  unfold step at hstep ⊢
  rw [placed_within h]
  cases hopen : Bracket.ofLexeme? (n.placed t) with
  | some b =>
    rw [hopen] at hstep
    obtain rfl := Option.some.inj hstep
    unfold within
    cases n.outer <;> rfl
  | none =>
    rw [hopen] at hstep
    exact closing_within h hstep

/-- A text is read where it stands as it is on its own. -/
theorem run_within {base : Nesting} (h : base.isFresh) {n m : Nesting} {ts : List Lexeme}
    (hrun : n.run ts = some m) : (base.within n).run ts = some (base.within m) := by
  induction ts generalizing n with
  | nil =>
    obtain rfl := Option.some.inj hrun
    rfl
  | cons t ts ih =>
    obtain ⟨k, hstep, hrest⟩ := Option.bind_eq_some_iff.1 hrun
    show ((base.within n).step t).bind _ = _
    rw [step_within h hstep]
    exact ih hrest

end Nesting

/-- Lexemes in pairs of brackets that do not end in a dot, and their trees. -/
structure Nests (ts : List Lexeme) (us : List Tree) : Prop where
  run : Nesting.run ⟨[], []⟩ ts = some ⟨[], us.reverse⟩
  ended : endsInDot us.reverse = false

namespace Nests

variable {ts ts' : List Lexeme} {us us' : List Tree}

theorem nil : Nests [] [] := ⟨rfl, rfl⟩

/-- Lexemes in pairs of brackets, where they stand. -/
theorem within (h : Nests ts us) {base : Nesting} (hbase : base.isFresh) :
    base.run ts = some { base with content := us.reverse ++ base.content } := by
  have hall := Nesting.run_within hbase h.run
  exact hall

theorem append (h : Nests ts us) (h' : Nests ts' us') : Nests (ts ++ ts') (us ++ us') where
  run := by
    have hfresh : Nesting.isFresh ⟨[], us.reverse⟩ := by simp [Nesting.isFresh, h.ended]
    rw [Nesting.run_append, h.run, Option.bind_some, h'.within hfresh, List.reverse_append]
  ended := by
    have hended := h'.ended
    rw [List.reverse_append]
    cases hus' : us'.reverse with
    | nil => exact h.ended
    | cons u rest =>
      rw [hus'] at hended
      exact hended

/-- What stands between parentheses is one group. -/
theorem parenthesised (h : Nests ts us) :
    Nests (.mark '(' :: ts ++ [.mark ')']) [.group .round us] where
  run := by
    have hopen : Nesting.step ⟨[], []⟩ (.mark '(') = some ⟨[(.round, [])], []⟩ := rfl
    have hinner := h.within (show Nesting.isFresh ⟨[(.round, [])], []⟩ from rfl)
    have hclose : Nesting.step ⟨[(.round, [])], us.reverse ++ []⟩ (.mark ')') =
        some ⟨[], [.group .round us]⟩ := by
      unfold Nesting.step Nesting.placed
      rw [List.append_nil, h.ended]
      simp [Bracket.ofLexeme?, Lexeme.isKeyword, Nesting.closing, Bracket.isClosedBy]
    show (Nesting.step ⟨[], []⟩ (.mark '(')).bind (fun m => m.run (ts ++ [.mark ')'])) = _
    rw [hopen, Option.bind_some, Nesting.run_append, hinner, Option.bind_some]
    show (Nesting.step ⟨[(.round, [])], us.reverse ++ []⟩ (.mark ')')).bind _ = _
    rw [hclose]
    rfl
  ended := rfl

/-- A lexeme that is no bracket. -/
theorem leaf {t : Lexeme} (hopen : Bracket.ofLexeme? t = none) (hclosing : t.isClosing = false)
    (hdot : t ≠ .mark '.') : Nests [t] [.leaf t] where
  run := by
    have hstep : Nesting.step ⟨[], []⟩ t = some ⟨[], [.leaf t]⟩ := by
      unfold Nesting.step
      rw [show Nesting.placed ⟨[], []⟩ t = t from rfl, hopen]
      simp [Nesting.closing, hclosing]
    show (Nesting.step ⟨[], []⟩ t).bind _ = _
    rw [hstep]
    rfl
  ended := by simp [endsInDot, Tree.isMark, hdot]

end Nests

/-! ## Texts -/

/-- The trees of a text. -/
def trees? (s : List Char) : Option (List Tree) :=
  if (Scan.between.read s).2.isSettled then
    match Nesting.run ⟨[], []⟩ (lexemes s) with
    | some ⟨[], content⟩ => if endsInDot content then none else some content.reverse
    | _ => none
  else none

/-- A text of whole lexemes with all brackets in pairs, and its trees. -/
def Balanced (s : List Char) (us : List Tree) : Prop := ∃ ts, Spells s ts ∧ Nests ts us

theorem trees?_eq_some_iff {s : List Char} {us : List Tree} : trees? s = some us ↔ Balanced s us := by
  unfold trees?
  constructor
  · intro h
    split at h
    next hsettled =>
      split at h
      next content hrun =>
        split at h
        next => cases h
        next hdot =>
          obtain rfl := Option.some.inj h
          refine ⟨_, ⟨rfl, hsettled⟩, ⟨?_, ?_⟩⟩
          · rw [List.reverse_reverse, hrun]
          · rw [List.reverse_reverse]
            simpa using hdot
      next => cases h
    next => cases h
  · rintro ⟨ts, hspells, hnests⟩
    rw [if_pos hspells.settled, hspells.lexemes, hnests.run]
    simp [hnests.ended]

theorem Balanced.unique {s : List Char} {us vs : List Tree} (h : Balanced s us) (h' : Balanced s vs) :
    us = vs := Option.some.inj ((trees?_eq_some_iff.2 h).symm.trans (trees?_eq_some_iff.2 h'))

namespace Balanced

variable {a b : List Char} {us vs : List Tree}

/-- A text in front of a blank, a comma or a parenthesis. -/
theorem delimited (ha : Balanced a us) {c : Char} (hc : isDelimiter c) (hb : Balanced (c :: b) vs) :
    Balanced (a ++ c :: b) (us ++ vs) := by
  obtain ⟨ts, hts, hus⟩ := ha
  obtain ⟨ts', hts', hvs⟩ := hb
  exact ⟨_, hts.delimited hc hts', hus.append hvs⟩

/-- Texts with a blank between them. -/
theorem blank (ha : Balanced a us) {c : Char} (hc : isBlank c) (hb : Balanced b vs) :
    Balanced (a ++ c :: b) (us ++ vs) := by
  obtain ⟨ts, hts, hvs⟩ := hb
  exact ha.delimited (by simp [isDelimiter, hc]) ⟨ts, hts.blank hc, hvs⟩

/-- A fixed text that ends in a blank, and one behind it. -/
theorem behind {p : List Char} {q : List Lexeme} {ws : List Tree}
    (hp : Scan.between.read p = (q, .between)) (hps : Nests q ws) (hb : Balanced b vs) :
    Balanced (p ++ b) (ws ++ vs) := by
  obtain ⟨ts, hts, hvs⟩ := hb
  exact ⟨_, hts.behind hp, hps.append hvs⟩

/-- A lexeme between two texts. -/
theorem joined (ha : Balanced a us) {c : Char} {p : List Char} {t : Lexeme} (hc : isDelimiter c)
    (hp : Scan.between.read (c :: p) = ([t], .between)) (ht : Nests [t] [.leaf t]) (hb : Balanced b vs) :
    Balanced (a ++ (c :: p ++ b)) (us ++ .leaf t :: vs) := ha.delimited hc (hb.behind hp ht)

/-- A text between parentheses is one group. -/
theorem parenthesised (ha : Balanced a us) : Balanced ('(' :: a ++ [')']) [.group .round us] := by
  obtain ⟨ts, hts, hus⟩ := ha
  refine ⟨_, ?_, hus.parenthesised⟩
  have hclose : Spells [')'] [.mark ')'] := ⟨rfl, rfl⟩
  exact (hts.delimited (by decide) hclose).behind (p := ['(']) (q := [.mark '(']) rfl

end Balanced

/-! ## Blanks at the ends -/

theorem read_blanks {b : List Char} (h : ∀ c ∈ b, isBlank c) : Scan.between.read b = ([], .between) := by
  induction b with
  | nil => rfl
  | cons c b ih =>
    have hstep : Scan.between.step c = ([], .between) := by
      simp [Scan.step_between, Scan.start, h c List.mem_cons_self]
    rw [Scan.read_cons, hstep, ih fun d hd => h d (List.mem_cons_of_mem _ hd)]
    rfl

/-- A blank settles nothing. -/
theorem isSettled_of_step_blank {m : Scan} {c : Char} (hc : isBlank c) (h : (m.step c).2.isSettled) :
    m.isSettled := by
  have hdelimiter := Scan.delimiter (c := c) (by simp [isDelimiter, hc])
  have hplain : c ≠ '$' ∧ isLetter c = false ∧ c.isDigit = false := by
    have hrest := hdelimiter.1
    simp only [isWordRest, Bool.or_eq_false_iff, decide_eq_false_iff_not] at hrest
    exact ⟨hrest.2, hrest.1.1, hrest.1.2⟩
  cases m with
  | between | word _ | number _ | operator _ | quoteEnd _ _ => rfl
  | quoted q sofar =>
    have hquote : c ≠ q.character := by cases q <;> simp [Quotes.character, hdelimiter]
    simp only [Scan.step, Scan.endsAt, Bool.false_eq_true, if_false, Scan.continued, hquote] at h
    split at h <;> cases h
  | backslash sofar =>
    simp only [Scan.step, Scan.endsAt, Bool.false_eq_true, if_false, Scan.continued] at h
    split at h <;> cases h
  | tag sofar => simp [Scan.step, Scan.endsAt, Scan.continued, hplain, Scan.isSettled] at h
  | body label sofar =>
    simp [Scan.step, Scan.endsAt, Scan.continued, Text.strip?, hplain.1.symm, Scan.isSettled] at h
  | broken => cases h

/-- Blanks at the end of a settled text add nothing to it. -/
theorem spells_of_blanks {a b : List Char} {ts : List Lexeme} (hb : ∀ c ∈ b, isBlank c)
    (h : Spells (a ++ b) ts) : Spells a ts := by
  induction b using List.reverseRecOn with
  | nil => rwa [List.append_nil] at h
  | append_singleton b c ih =>
    have hc := hb c (by simp)
    rw [← List.append_assoc] at h
    refine ih (fun d hd => hb d (List.mem_append_left _ hd)) ?_
    have hsettled : (Scan.between.read (a ++ b)).2.isSettled := by
      have hall := h.settled
      rw [Scan.read_append] at hall
      exact isSettled_of_step_blank hc hall
    have hone : Spells [c] [] := by
      have hread := read_blanks (b := [c]) (by simpa using hc)
      refine ⟨?_, by rw [hread]; rfl⟩
      unfold lexemes
      rw [hread]
      rfl
    have hself : Spells (a ++ b) (lexemes (a ++ b)) := ⟨rfl, hsettled⟩
    have hall := hself.delimited (c := c) (by simp [isDelimiter, hc]) hone
    rw [List.append_nil] at hall
    exact ⟨hall.lexemes.symm.trans h.lexemes, hsettled⟩

theorem blank_of_takeWhile {s : List Char} : ∀ c ∈ s.takeWhile isBlank, isBlank c :=
  List.all_eq_true.1 List.all_takeWhile

/-- A text is its own without the blanks at its end, and these. -/
theorem exists_trimEnd_append (s : List Char) : ∃ b, (∀ c ∈ b, isBlank c) ∧ s = trimEnd s ++ b := by
  refine ⟨(s.reverse.takeWhile isBlank).reverse,
    fun c hc => blank_of_takeWhile c (List.mem_reverse.1 hc), ?_⟩
  unfold trimEnd
  rw [← List.reverse_append, List.takeWhile_append_dropWhile, List.reverse_reverse]

/-- A text is read as it is without the blanks around it. -/
theorem Balanced.trim {s : List Char} {us : List Tree} (h : Balanced s us) : Balanced (trim s) us := by
  obtain ⟨ts, hts, hus⟩ := h
  refine ⟨ts, ?_, hus⟩
  have hfront : Spells (trimStart s) ts := by
    have hread := read_blanks (b := s.takeWhile isBlank) blank_of_takeWhile
    rw [← List.takeWhile_append_dropWhile (p := isBlank) (l := s)] at hts
    have hlexemes := hts.lexemes
    have hsettled := hts.settled
    unfold lexemes at hlexemes
    rw [Scan.read_append, hread] at hlexemes hsettled
    exact ⟨hlexemes, hsettled⟩
  obtain ⟨b, hb, hsplit⟩ := exists_trimEnd_append (trimStart s)
  rw [hsplit] at hfront
  exact spells_of_blanks hb hfront

end DeclaredTriggers.Sql.Expression
