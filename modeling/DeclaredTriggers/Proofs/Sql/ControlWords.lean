import DeclaredTriggers.Proofs.Sql.Spelling
import DeclaredTriggers.Sql.Identifier
import Mathlib.Data.List.Infix

/-!
# Spellings of transaction control

The words of a statement that controls a transaction stand in any letter case, with blanks and comments between
them and in front of the first. In front of the first word both are passed over; but behind `ROLLBACK` and
`ABORT` the words are told apart by blanks only, so a comment there is read as words, or hides some. And a
comment that begins with a slash is taken to end there.

> `Phrase.recognised_iff`: which arrangements of blanks and comments leave every statement of a form recognised,
> whatever its comments say.
-/

namespace DeclaredTriggers.Sql

open Text (isBlank trimStart)

/-! ## Blanks and comments -/

/-- What may stand between two words of a statement. -/
inductive Piece where
  | blank (c : Char) (h : isBlank c)
  /-- A comment up to the end of the line. -/
  | line (body : List Char) (h : '\n' ∉ body)
  /-- A comment up to a star and a slash, with no comment in it. -/
  | block (body : List Char) (hend : ¬['*', '/'] <:+: body) (hstart : ¬['/', '*'] <:+: body ++ ['*'])

/-- What a piece is, apart from what it says. -/
inductive PieceKind where
  | blank
  | line
  | block
  /-- A comment up to a star and a slash that begins with a slash, right behind its first star. -/
  | slashed
  deriving DecidableEq

namespace Piece

def text : Piece → List Char
  | blank c _ => [c]
  | line body _ => '-' :: '-' :: (body ++ ['\n'])
  | block body _ _ => '/' :: '*' :: (body ++ ['*', '/'])

def kind : Piece → PieceKind
  | blank _ _ => .blank
  | line _ _ => .line
  | block body _ _ => if body.head? = some '/' then .slashed else .block

end Piece

/-- Pieces one behind the other. -/
def spaced (ps : List Piece) : List Char := ps.flatMap Piece.text

theorem spaced_cons (p : Piece) (ps : List Piece) (s : List Char) :
    spaced (p :: ps) ++ s = p.text ++ (spaced ps ++ s) := by
  rw [spaced, List.flatMap_cons, List.append_assoc]
  rfl

/-- The body of a comment is passed over up to its end, behind a star if it does not begin with a slash. -/
theorem afterLead_block {body : List Char} (h : ¬['*', '/'] <:+: body) (s : List Char) :
    afterLead .block (body ++ '*' :: '/' :: s) = afterLead .between s ∧
      (body.head? ≠ some '/' → afterLead .star (body ++ '*' :: '/' :: s) = afterLead .between s) := by
  induction body with
  | nil => exact ⟨rfl, fun _ => rfl⟩
  | cons c body ih =>
    obtain ⟨hblock, hstar⟩ := ih fun hinside => h (hinside.trans (List.suffix_cons c body).isInfix)
    rw [List.cons_append]
    by_cases hc : c = '*'
    · -- behind this star, too, no slash comes next
      subst hc
      have hnext : body.head? ≠ some '/' := by
        intro hnext
        obtain ⟨rest, rfl⟩ := List.head?_eq_some_iff.1 hnext
        exact h (List.prefix_append ['*', '/'] rest).isInfix
      exact ⟨hstar hnext, fun _ => hstar hnext⟩
    · refine ⟨?_, fun hslash => ?_⟩
      · rw [afterLead_comment.2.1 hc]
        exact hblock
      · rw [afterLead_comment.2.2 (fun heq => hslash (by rw [heq]; rfl)) hc]
        exact hblock

/-- Blanks and comments in front of a statement are a part of its lead, but for comments that begin with a
slash. -/
theorem withoutLead_piece {p : Piece} (hp : p.kind ≠ .slashed) (s : List Char) :
    withoutLead (p.text ++ s) = withoutLead s := by
  unfold withoutLead
  cases p with
  | blank c hc =>
    have hne : ∀ d ∈ ['-', '/', '('], c = d → False := by
      rintro d hd rfl
      have hall : ∀ d ∈ ['-', '/', '('], isBlank d = false := by decide
      rw [hall c hd] at hc
      cases hc
    rw [Piece.text, List.singleton_append, afterLead_between (fun _ h _ => hne _ (by decide) h)
      (fun _ h _ => hne _ (by decide) h) (hne _ (by decide)), if_pos hc]
  | line body h =>
    have hline : afterLead .line (body ++ '\n' :: s) = afterLead .between s := by
      clear hp
      induction body with
      | nil => rfl
      | cons c body ih =>
        rw [List.cons_append, afterLead_comment.1 fun hc => h (hc ▸ List.mem_cons_self)]
        exact ih fun hmem => h (List.mem_cons_of_mem c hmem)
    rw [Piece.text, List.cons_append, List.cons_append, List.append_assoc]
    exact hline
  | block body hend hstart =>
    have hslash : body.head? ≠ some '/' := fun heq => hp (if_pos heq)
    rw [Piece.text, List.cons_append, List.cons_append, List.append_assoc]
    exact (afterLead_block hend s).2 hslash

theorem withoutLead_spaced {ps : List Piece} (h : ∀ p ∈ ps, p.kind ≠ .slashed) (s : List Char) :
    withoutLead (spaced ps ++ s) = withoutLead s := by
  induction ps with
  | nil => rfl
  | cons p ps ih =>
    obtain ⟨hp, hps⟩ := List.forall_mem_cons.1 h
    rw [spaced_cons, withoutLead_piece hp]
    exact ih hps

/-! ## Between words -/

/-- One or more pieces. -/
structure Gap (α : Type) where
  first : α
  others : List α

namespace Gap

variable {α β : Type}

def pieces (g : Gap α) : List α := g.first :: g.others

def map (f : α → β) (g : Gap α) : Gap β := ⟨f g.first, g.others.map f⟩

theorem pieces_map (f : α → β) (g : Gap α) : (g.map f).pieces = g.pieces.map f := rfl

end Gap

/-- A piece that is a blank is one, and a comment begins with a dash or a slash. -/
theorem Piece.text_cases (p : Piece) :
    (p.kind = .blank ∧ ∃ c, isBlank c ∧ p.text = [c]) ∨
      (p.kind ≠ .blank ∧ ∃ c r, (c = '-' ∨ c = '/') ∧ p.text = c :: r) := by
  cases p with
  | blank c h => exact .inl ⟨rfl, c, h, rfl⟩
  | line body h => exact .inr ⟨by simp [kind], _, _, .inl rfl, rfl⟩
  | block body hend hstart =>
    refine .inr ⟨?_, _, _, .inr rfl, rfl⟩
    show (if body.head? = some '/' then PieceKind.slashed else .block) ≠ .blank
    split <;> decide

/-- No word goes on behind a gap. -/
theorem head_spaced (g : Gap Piece) (s : List Char) :
    ∀ c ∈ (spaced g.pieces ++ s).head?, isWordCharacter c = false := by
  intro c hc
  rw [Gap.pieces, spaced_cons] at hc
  rcases g.first.text_cases with ⟨-, d, hd, htext⟩ | ⟨-, d, r, hd, htext⟩
  · rw [htext] at hc
    obtain rfl : d = c := by simpa using hc
    cases hword : isWordCharacter d with
    | false => rfl
    | true => rw [(word_character hword).1] at hd; cases hd
  · rw [htext] at hc
    obtain rfl : d = c := by simpa using hc
    rcases hd with rfl | rfl <;> decide

/-- Blanks are trimmed, up to what is none. -/
theorem trimStart_spaced (ps : List Piece) (s : List Char) :
    (∀ p ∈ ps, p.kind = .blank) ∧ trimStart (spaced ps ++ s) = trimStart s ∨
      (∃ p ∈ ps, p.kind ≠ .blank) ∧ ∃ c r, (c = '-' ∨ c = '/') ∧ trimStart (spaced ps ++ s) = c :: r := by
  induction ps with
  | nil => exact .inl ⟨by simp, rfl⟩
  | cons p ps ih =>
    rw [spaced_cons]
    rcases p.text_cases with ⟨hkind, c, hc, htext⟩ | ⟨hkind, c, r, hc, htext⟩
    · have htrim : trimStart (p.text ++ (spaced ps ++ s)) = trimStart (spaced ps ++ s) := by
        rw [htext]
        exact List.dropWhile_cons_of_pos hc
      rw [htrim]
      simpa [hkind] using ih
    · refine .inr ⟨⟨p, List.mem_cons_self, hkind⟩, c, r ++ (spaced ps ++ s), hc, ?_⟩
      have hblank : isBlank c = false := by rcases hc with rfl | rfl <;> decide
      rw [htext, List.cons_append]
      exact List.dropWhile_cons_of_neg (by simp [hblank])

/-- Behind a word, what is left is behind its first blank. -/
theorem fromBlank_word {w : List Char} (hw : ∀ c ∈ w, isBlank c = false) (s : List Char) :
    fromBlank (w ++ s) = fromBlank s := by
  unfold fromBlank
  exact List.dropWhile_append_of_pos fun c hc => by simp [hw c hc]

/-- Behind a word and a blank, all blanks are trimmed. -/
theorem afterWord_blank {w : List Char} (hw : ∀ c ∈ w, isBlank c = false) {g : Gap Piece}
    (hfirst : g.first.kind = .blank) (s : List Char) :
    afterWord (w ++ (spaced g.pieces ++ s)) = trimStart (spaced g.pieces ++ s) := by
  unfold afterWord
  rw [fromBlank_word hw, Gap.pieces, spaced_cons]
  rcases g.first.text_cases with ⟨-, c, hc, htext⟩ | ⟨hkind, -⟩
  · rw [htext, fromBlank, List.singleton_append, List.dropWhile_cons_of_neg (by simp [hc])]
  · exact absurd hfirst hkind

/-! ## Statements -/

/-- A word without a meaning of its own. -/
inductive Noise where
  | work
  | transaction

def Noise.word : Noise → String
  | work => "WORK"
  | transaction => "TRANSACTION"

/-- The words that open or end a transaction. -/
inductive Verb where
  | opens
  | commit
  | ends
  | rollback
  | abort

namespace Verb

def word : Verb → String
  | opens => "BEGIN"
  | commit => "COMMIT"
  | ends => "END"
  | rollback => "ROLLBACK"
  | abort => "ABORT"

def control : Verb → Control
  | opens => .opens
  | commit | ends => .commit
  | rollback | abort => .rollback

/-- Whether the words behind this one are looked at. -/
def undoes : Verb → Bool
  | rollback | abort => true
  | opens | commit | ends => false

end Verb

/-- The statements that control transactions. -/
inductive Form where
  | plain (verb : Verb) (noise : Option Noise)
  | start
  | rollbackTo (noise : Option Noise) (savepoint : Bool) (name : Part)
  | savepoint (name : Part)
  | release (savepoint : Bool) (name : Part)

namespace Form

def control : Form → Control
  | plain verb _ => verb.control
  | start => .opens
  | rollbackTo .. => .rollbackTo
  | savepoint _ => .savepoint
  | release .. => .release

/-- The first word. -/
def first : Form → String
  | plain verb _ => verb.word
  | start => "START"
  | rollbackTo .. => "ROLLBACK"
  | savepoint _ => "SAVEPOINT"
  | release .. => "RELEASE"

/-- A savepoint's name, behind the word for it or not. -/
def savepointWords (word : Bool) (name : Part) : List (List Char) :=
  (if word then ["SAVEPOINT".toList] else []) ++ [name.sql.toList]

/-- The other words. -/
def others : Form → List (List Char)
  | plain _ noise => noise.toList.map (·.word.toList)
  | start => ["TRANSACTION".toList]
  | rollbackTo noise word name => noise.toList.map (·.word.toList) ++ "TO".toList :: savepointWords word name
  | savepoint name => [name.sql.toList]
  | release word name => savepointWords word name

/-- Where the words behind the first are looked at: whether they name a savepoint. -/
def named? : Form → Option Bool
  | plain verb _ => if verb.undoes then some false else none
  | rollbackTo .. => some true
  | start | savepoint _ | release .. => none

end Form

/-- A form, with what stands in front of its words. -/
structure Phrase (α : Type) where
  form : Form
  lead : List α
  gaps : List (Gap α)
  count : gaps.length = form.others.length

/-- Words, each behind a gap. -/
def spacedWords : List (Gap Piece) → List (List Char) → List Char
  | g :: gs, w :: ws => spaced g.pieces ++ (w ++ spacedWords gs ws)
  | _, _ => []

namespace Phrase

variable {α β : Type}

def map (f : α → β) (p : Phrase α) : Phrase β where
  form := p.form
  lead := p.lead.map f
  gaps := p.gaps.map (Gap.map f)
  count := by rw [List.length_map, p.count]

/-- A phrase from its first word on. -/
def body (q : Phrase Piece) : List Char := q.form.first.toList ++ spacedWords q.gaps q.form.others

/-- A phrase, with its words in capitals. -/
def text (q : Phrase Piece) : List Char := spaced q.lead ++ q.body

/-- Whether no comment stands where words are looked at: none in front of `TO`, and behind another rollback
none that has no blank in front of it. -/
def IsPlain (p : Phrase PieceKind) : Prop :=
  match p.form, p.gaps with
  | .plain verb (some _), g :: _ => verb.undoes → g.first = .blank
  | .rollbackTo none _ _, g :: _ => ∀ k ∈ g.pieces, k = .blank
  | .rollbackTo (some _) _ _, g :: g' :: _ => ∀ k ∈ g.pieces ++ g'.pieces, k = .blank
  | _, _ => True

end Phrase

/-! ## First words -/

/-- What a statement does that begins with a word, told by whether the words behind it name a savepoint. -/
def controlled (word : String) (named : Bool) : Control :=
  if word = "BEGIN" || word = "START" then .opens
  else if word = "COMMIT" || word = "END" then .commit
  else if word = "ROLLBACK" || word = "ABORT" then if named then .rollbackTo else .rollback
  else if word = "SAVEPOINT" then .savepoint
  else .release

theorem controlWords_words : ∀ word ∈ controlWords, isWord word ∧ word ≠ "" := by decide

theorem ofStatement?_of_startsWith {word : String} (hword : word ∈ controlWords) {s : List Char}
    (h : startsWith word s) :
    Control.ofStatement? s = some (controlled word (namesSavepoint (afterWord s))) := by
  have hstarts : ∀ other ∈ controlWords, startsWith other s = decide (word = other) := by
    intro other hother
    have hdistinct : ∀ a ∈ controlWords, ∀ b ∈ controlWords, lower a.toList = lower b.toList → a = b := by
      decide
    by_cases hsame : word = other
    · rw [← hsame, h, decide_eq_true rfl]
    · rw [decide_eq_false hsame]
      exact startsWith_eq_false h ⟨(controlWords_words _ hword).1, (controlWords_words _ hother).1⟩
        fun hlower => hsame (hdistinct _ hword _ hother hlower)
  obtain ⟨hisWord, hne⟩ := controlWords_words _ hword
  unfold Control.ofStatement? controlled
  rw [withoutLead_of_startsWith h hisWord hne]
  simp only [hstarts "BEGIN" (by decide), hstarts "START" (by decide), hstarts "COMMIT" (by decide),
    hstarts "END" (by decide), hstarts "ROLLBACK" (by decide), hstarts "ABORT" (by decide),
    hstarts "SAVEPOINT" (by decide), hstarts "RELEASE" (by decide)]
  simp only [controlWords, List.mem_cons, List.not_mem_nil, or_false] at hword
  rcases hword with rfl | rfl | rfl | rfl | rfl | rfl | rfl | rfl <;> rfl

namespace Phrase

theorem head_spacedWords (gs : List (Gap Piece)) (ws : List (List Char)) :
    ∀ c ∈ (spacedWords gs ws).head?, isWordCharacter c = false := by
  match gs, ws with
  | g :: gs, w :: ws => exact head_spaced g _
  | [], _ | _ :: _, [] => exact nofun

theorem first_mem (form : Form) : form.first ∈ controlWords := by
  cases form with
  | plain verb _ => cases verb <;> simp [Form.first, Verb.word, controlWords]
  | start | rollbackTo | savepoint | release => simp [Form.first, controlWords]

/-- Without a comment that begins with a slash in front of it, a phrase is told by its first word. -/
theorem ofStatement?_text {q : Phrase Piece} (h : ∀ p ∈ q.lead, p.kind ≠ .slashed) :
    Control.ofStatement? q.text = some (controlled q.form.first (namesSavepoint (afterWord q.body))) := by
  have hbody : startsWith q.form.first q.body :=
    startsWith_iff.2 ⟨_, _, rfl, rfl, head_spacedWords _ _⟩
  obtain ⟨hisWord, hne⟩ := controlWords_words _ (first_mem q.form)
  rw [← Control.ofStatement?_withoutLead, text, withoutLead_spaced h, withoutLead_of_startsWith hbody hisWord hne]
  exact ofStatement?_of_startsWith (first_mem q.form) hbody

/-- The first word tells what a form does, as far as the words behind it need not be looked at. -/
theorem controlled_eq_iff (form : Form) (named : Bool) :
    controlled form.first named = form.control ↔ ∀ b ∈ form.named?, named = b := by
  cases form with
  | plain verb _ =>
    cases verb <;>
      simp [controlled, Form.first, Verb.word, Form.control, Verb.control, Form.named?, Verb.undoes]
  | start | rollbackTo | savepoint | release => simp [controlled, Form.first, Form.control, Form.named?]

end Phrase

/-! ## The words behind a rollback -/

theorem namesSavepoint_to {s : List Char} (h : ∀ c ∈ s.head?, isWordCharacter c = false) :
    startsWith "TO" ("TO".toList ++ s) ∧ namesSavepoint ("TO".toList ++ s) := by
  have hto : startsWith "TO" ("TO".toList ++ s) := startsWith_iff.2 ⟨_, _, rfl, rfl, h⟩
  refine ⟨hto, ?_⟩
  unfold namesSavepoint
  rw [startsWith_eq_false (b := "WORK") hto (by decide) (by decide),
    startsWith_eq_false (b := "TRANSACTION") hto (by decide) (by decide)]
  exact hto

theorem namesSavepoint_noise (noise : Noise) {s : List Char} (h : ∀ c ∈ s.head?, isWordCharacter c = false) :
    namesSavepoint (noise.word.toList ++ s) = startsWith "TO" (afterWord (noise.word.toList ++ s)) := by
  have hnoise : startsWith noise.word (noise.word.toList ++ s) := startsWith_iff.2 ⟨_, _, rfl, rfl, h⟩
  unfold namesSavepoint
  cases noise with
  | work => rw [show startsWith "WORK" _ = true from hnoise]; rfl
  | transaction => rw [show startsWith "TRANSACTION" _ = true from hnoise, Bool.or_true]; rfl

/-- What begins with one of these characters begins with no word that is looked for. -/
theorem namesSavepoint_eq_false {c : Char} (h : c ∈ ['-', '/', 'X']) (s : List Char) :
    startsWith "TO" (c :: s) = false ∧ namesSavepoint (c :: s) = false := by
  simp only [List.mem_cons, List.not_mem_nil, or_false] at h
  rcases h with rfl | rfl | rfl <;> exact ⟨rfl, rfl⟩

/-- A word in a comment: the one that is looked for, or another one. -/
def commentWord (named : Bool) : List Char := if named then "TO".toList else "X".toList

/-- What a piece of each kind may be, with a word in every comment. -/
def PieceKind.filled (named : Bool) : PieceKind → Piece
  | blank => .blank ' ' (by decide)
  | line => .line (' ' :: commentWord named ++ [' ']) (by cases named <;> decide)
  | block => .block (' ' :: commentWord named ++ [' ']) (by cases named <;> decide) (by cases named <;> decide)
  | slashed =>
    .block ('/' :: ' ' :: commentWord named ++ [' ']) (by cases named <;> decide) (by cases named <;> decide)

theorem PieceKind.kind_filled (named : Bool) (k : PieceKind) : (k.filled named).kind = k := by
  cases k <;> rfl

theorem Phrase.map_filled (named : Bool) (p : Phrase PieceKind) :
    (p.map (PieceKind.filled named)).map Piece.kind = p := by
  obtain ⟨form, lead, gaps, count⟩ := p
  have hkind : Piece.kind ∘ PieceKind.filled named = id := funext fun k => k.kind_filled named
  have hgap : Gap.map Piece.kind ∘ Gap.map (PieceKind.filled named) = id :=
    funext fun g => by simp [Gap.map, hkind, PieceKind.kind_filled]
  simp [Phrase.map, hkind, hgap]

/-- The word in a comment right behind a word is read as the next one. -/
theorem afterWord_filled {w : List Char} (hw : ∀ c ∈ w, isBlank c = false) (named : Bool) {g : Gap PieceKind}
    (hfirst : g.first ≠ .blank) (s : List Char) :
    ∃ r, afterWord (w ++ (spaced (g.map (PieceKind.filled named)).pieces ++ s)) =
      commentWord named ++ ' ' :: r := by
  rw [Gap.pieces, spaced_cons]
  unfold afterWord
  rw [fromBlank_word hw]
  generalize spaced (g.map (PieceKind.filled named)).others ++ s = rest
  obtain ⟨k, others⟩ := g
  cases k with
  | blank => exact absurd rfl hfirst
  | line => exact ⟨'\n' :: rest, by cases named <;> rfl⟩
  | block => exact ⟨'*' :: '/' :: rest, by cases named <;> rfl⟩
  | slashed => exact ⟨'*' :: '/' :: rest, by cases named <;> rfl⟩

/-- Behind a word, a comment with another word in it hides those behind the comment. -/
theorem afterWord_hidden {w : List Char} (hw : ∀ c ∈ w, isBlank c = false) {g : Gap PieceKind}
    (hcomment : ¬∀ k ∈ g.pieces, k = .blank) (s : List Char) :
    startsWith "TO" (afterWord (w ++ (spaced (g.map (PieceKind.filled false)).pieces ++ s))) = false ∧
      namesSavepoint (afterWord (w ++ (spaced (g.map (PieceKind.filled false)).pieces ++ s))) = false := by
  by_cases hfirst : g.first = .blank
  · have hkind : (g.map (PieceKind.filled false)).first.kind = .blank :=
      (PieceKind.kind_filled false g.first).trans hfirst
    rw [afterWord_blank hw hkind]
    rcases trimStart_spaced (g.map (PieceKind.filled false)).pieces s with ⟨hall, -⟩ | ⟨-, c, r, hc, h⟩
    · refine absurd (fun k hk => ?_) hcomment
      rw [← PieceKind.kind_filled false k]
      exact hall _ (List.mem_map_of_mem hk)
    · rw [h]
      exact namesSavepoint_eq_false (by rcases hc with rfl | rfl <;> decide) r
  · obtain ⟨r, hr⟩ := afterWord_filled hw false hfirst s
    rw [hr]
    exact namesSavepoint_eq_false (by decide) _

/-- Behind a word and nothing but blanks there is the next word. -/
theorem afterWord_blanks {w : List Char} (hw : ∀ c ∈ w, isBlank c = false) {g : Gap Piece}
    (hblank : ∀ p ∈ g.pieces, p.kind = .blank) {c : Char} (hc : isBlank c = false) (s : List Char) :
    afterWord (w ++ (spaced g.pieces ++ c :: s)) = c :: s := by
  rw [afterWord_blank hw (hblank _ List.mem_cons_self)]
  rcases trimStart_spaced g.pieces (c :: s) with ⟨-, h⟩ | ⟨⟨p, hp, hkind⟩, -⟩
  · rw [h]
    exact List.dropWhile_cons_of_neg (by simp [hc])
  · exact absurd (hblank p hp) hkind

section

variable {w : List Char} {g g' : Gap Piece}

theorem isBlank_noise (noise : Noise) : ∀ c ∈ noise.word.toList, isBlank c = false := by
  cases noise <;> decide

theorem afterWord_noise (hw : ∀ c ∈ w, isBlank c = false) (hblank : ∀ p ∈ g.pieces, p.kind = .blank)
    (noise : Noise) (s : List Char) :
    afterWord (w ++ (spaced g.pieces ++ (noise.word.toList ++ s))) = noise.word.toList ++ s := by
  cases noise with
  | work => exact afterWord_blanks hw hblank (c := 'W') (by decide) _
  | transaction => exact afterWord_blanks hw hblank (c := 'T') (by decide) _

/-- A word that stands alone names no savepoint. -/
theorem named_alone (hw : ∀ c ∈ w, isBlank c = false) : namesSavepoint (afterWord w) = false := by
  unfold afterWord
  have hend := fromBlank_word hw []
  rw [List.append_nil] at hend
  rw [hend]
  rfl

/-- A word without a meaning behind a blank names no savepoint. -/
theorem named_noise (hw : ∀ c ∈ w, isBlank c = false) (hfirst : g.first.kind = .blank) (noise : Noise) :
    namesSavepoint (afterWord (w ++ (spaced g.pieces ++ noise.word.toList))) = false := by
  rw [afterWord_blank hw hfirst]
  rcases trimStart_spaced g.pieces noise.word.toList with ⟨-, h⟩ | ⟨-, c, r, hc, h⟩
  · rw [h]
    cases noise <;> decide
  · rw [h]
    exact (namesSavepoint_eq_false (by rcases hc with rfl | rfl <;> decide) r).2

/-- `TO` behind blanks names a savepoint. -/
theorem named_to (hw : ∀ c ∈ w, isBlank c = false) (hblank : ∀ p ∈ g.pieces, p.kind = .blank) {s : List Char}
    (hs : ∀ c ∈ s.head?, isWordCharacter c = false) :
    namesSavepoint (afterWord (w ++ (spaced g.pieces ++ ("TO".toList ++ s)))) := by
  have hafter := afterWord_blanks hw hblank (c := 'T') (by decide) ('O' :: s)
  rw [show "TO".toList ++ s = 'T' :: 'O' :: s from rfl, hafter]
  exact (namesSavepoint_to hs).2

/-- So does it behind blanks, a word without a meaning and blanks again. -/
theorem named_noise_to (hw : ∀ c ∈ w, isBlank c = false) (hblank : ∀ p ∈ g.pieces, p.kind = .blank)
    (hblank' : ∀ p ∈ g'.pieces, p.kind = .blank) (noise : Noise) {s : List Char}
    (hs : ∀ c ∈ s.head?, isWordCharacter c = false) :
    namesSavepoint (afterWord (w ++ (spaced g.pieces ++ (noise.word.toList ++
      (spaced g'.pieces ++ ("TO".toList ++ s)))))) := by
  have hto := afterWord_blanks (isBlank_noise noise) hblank' (c := 'T') (by decide) ('O' :: s)
  rw [afterWord_noise hw hblank, namesSavepoint_noise noise (head_spaced g' _),
    show "TO".toList ++ s = 'T' :: 'O' :: s from rfl, hto]
  exact (namesSavepoint_to hs).1

/-- A comment on either side of a word without a meaning hides what is behind it. -/
theorem named_noise_hidden {g g' : Gap PieceKind} (hw : ∀ c ∈ w, isBlank c = false)
    (hcomment : ¬∀ k ∈ g.pieces ++ g'.pieces, k = .blank) (noise : Noise) (s : List Char) :
    namesSavepoint (afterWord (w ++ (spaced (g.map (PieceKind.filled false)).pieces ++ (noise.word.toList ++
      (spaced (g'.map (PieceKind.filled false)).pieces ++ s))))) = false := by
  by_cases hg : ∀ k ∈ g.pieces, k = .blank
  · -- the word without a meaning is found, and what is behind it is hidden
    have hblank : ∀ q ∈ (g.map (PieceKind.filled false)).pieces, q.kind = .blank := by
      intro q hq
      rw [Gap.pieces_map] at hq
      obtain ⟨k, hk, rfl⟩ := List.mem_map.1 hq
      rw [PieceKind.kind_filled, hg k hk]
    have hg' : ¬∀ k ∈ g'.pieces, k = .blank := fun hg' => hcomment (List.forall_mem_append.2 ⟨hg, hg'⟩)
    rw [afterWord_noise hw hblank, namesSavepoint_noise noise (head_spaced _ _)]
    exact (afterWord_hidden (isBlank_noise noise) hg' s).1
  · exact (afterWord_hidden hw hg _).2

end

namespace Phrase

/-- Whether the words behind the first one are taken to name a savepoint. -/
def named (q : Phrase Piece) : Bool := namesSavepoint (afterWord q.body)

theorem isBlank_first (form : Form) : ∀ c ∈ form.first.toList, isBlank c = false := by
  intro c hc
  have hword := (controlWords_words _ (first_mem form)).1
  exact (word_character (List.all_eq_true.1 hword c hc)).1

/-- Where no comment is read as words, the words are told. -/
theorem named_eq_of_isPlain {q : Phrase Piece} (h : (q.map Piece.kind).IsPlain) :
    ∀ b ∈ q.form.named?, q.named = b := by
  obtain ⟨form, lead, gaps, count⟩ := q
  have hfirst := isBlank_first form
  have hkinds : ∀ {g : Gap Piece}, (∀ k ∈ (g.map Piece.kind).pieces, k = .blank) →
      ∀ p ∈ g.pieces, p.kind = .blank :=
    fun hg p hp => hg _ (List.mem_map_of_mem hp)
  intro b hb
  cases form with
  | start | savepoint | release => cases hb
  | plain verb noise =>
    obtain ⟨hverb, rfl⟩ : verb.undoes = true ∧ false = b := by simpa [Form.named?] using hb
    cases noise with
    | none =>
      obtain rfl := List.length_eq_zero_iff.1 count
      have halone := named_alone hfirst
      simpa [named, body, spacedWords] using halone
    | some noise =>
      obtain ⟨g, rfl⟩ := List.length_eq_one_iff.1 count
      have hnoise := named_noise hfirst (h hverb) noise
      simpa [named, body, spacedWords, Form.others] using hnoise
  | rollbackTo noise word name =>
    obtain rfl : true = b := by simpa [Form.named?] using hb
    cases noise with
    | none =>
      match gaps, count with
      | g :: gaps, _ => exact named_to hfirst (hkinds h) (head_spacedWords gaps _)
    | some noise =>
      match gaps, count with
      | g :: g' :: gaps, _ =>
        have hg := List.forall_mem_append.1 h
        exact named_noise_to hfirst (hkinds hg.1) (hkinds hg.2) noise (head_spacedWords gaps _)

/-- Where a comment may be read as words, it can say so, or hide the words. -/
theorem exists_named_ne_of_not_isPlain {p : Phrase PieceKind} (h : ¬p.IsPlain) :
    ∃ named, ∃ b ∈ p.form.named?, (p.map (PieceKind.filled named)).named ≠ b := by
  obtain ⟨form, lead, gaps, count⟩ := p
  have hfirst := isBlank_first form
  cases form with
  | start | savepoint | release => exact absurd trivial h
  | plain verb noise =>
    match noise, gaps, count with
    | none, _, _ => exact absurd trivial h
    | some noise, g :: gaps, _ =>
      obtain ⟨hverb, hcomment⟩ : verb.undoes = true ∧ g.first ≠ .blank := Classical.not_imp.1 h
      obtain ⟨r, hr⟩ := afterWord_filled hfirst true hcomment
        (noise.word.toList ++ spacedWords (gaps.map (Gap.map (PieceKind.filled true))) [])
      refine ⟨true, false, by simp [Form.named?, hverb], ?_⟩
      have hnamed : namesSavepoint (afterWord _) = true := (congrArg namesSavepoint hr).trans
        (namesSavepoint_to (s := ' ' :: r) (by simp; decide)).2
      exact ne_of_eq_of_ne hnamed (by decide)
  | rollbackTo noise word name =>
    match noise, gaps, count with
    | none, g :: gaps, _ => exact ⟨false, true, rfl, ne_of_eq_of_ne (afterWord_hidden hfirst h _).2 (by decide)⟩
    | some noise, g :: g' :: gaps, _ =>
      exact ⟨false, true, rfl, ne_of_eq_of_ne (named_noise_hidden hfirst h noise _) (by decide)⟩

/-- A comment that begins with a slash is taken to end there, and the rest of it for the statement. -/
theorem ofStatement?_slashed {p : Phrase PieceKind} (h : .slashed ∈ p.lead) :
    Control.ofStatement? (p.map (PieceKind.filled false)).text = none := by
  obtain ⟨before, behind, hlead, hno⟩ := List.eq_append_cons_of_mem h
  have hbefore : ∀ q ∈ before.map (PieceKind.filled false), q.kind ≠ .slashed := by
    intro q hq hslashed
    obtain ⟨k, hk, rfl⟩ := List.mem_map.1 hq
    rw [PieceKind.kind_filled] at hslashed
    exact hno (hslashed ▸ hk)
  obtain ⟨r, hr⟩ : ∃ r, withoutLead (p.map (PieceKind.filled false)).text = 'X' :: ' ' :: r := by
    have htext : (p.map (PieceKind.filled false)).text = spaced (before.map (PieceKind.filled false)) ++
        (spaced ((.slashed :: behind).map (PieceKind.filled false)) ++ (p.map (PieceKind.filled false)).body) := by
      rw [text, map, hlead, List.map_append, spaced, List.flatMap_append, List.append_assoc]
      rfl
    rw [htext, withoutLead_spaced hbefore, List.map_cons, spaced_cons]
    exact ⟨_, rfl⟩
  have hx : startsWith "X" (withoutLead (p.map (PieceKind.filled false)).text) := by rw [hr]; rfl
  have hwords : ∀ control ∈ controlWords, lower "X".toList ≠ lower control.toList := by decide
  exact ofStatement?_eq_none_iff.2 fun control hcontrol =>
    startsWith_eq_false hx ⟨by decide, (controlWords_words control hcontrol).1⟩ (hwords control hcontrol)

/-- For every form and every arrangement of blanks and comments in front of its words: each statement of this
form and arrangement, in any letter case and whatever its comments say, is recognised and is of the transaction
kind, if and only if no comment in front of the first word begins with a slash, and no comment stands where
words behind a rollback are looked at. -/
theorem recognised_iff (p : Phrase PieceKind) :
    (∀ q : Phrase Piece, q.map Piece.kind = p → ∀ t, lower t = lower q.text →
      Control.ofStatement? t = some q.form.control ∧ StatementKind.ofStatement t = .transaction) ↔
      .slashed ∉ p.lead ∧ p.IsPlain := by
  constructor
  · intro h
    have hfilled : ∀ named, Control.ofStatement? (p.map (PieceKind.filled named)).text = some p.form.control :=
      fun named => (h _ (map_filled named p) _ rfl).1
    have hslashed : .slashed ∉ p.lead := by
      intro hslashed
      have hnone := ofStatement?_slashed hslashed
      rw [hfilled] at hnone
      cases hnone
    -- two fillings of the comments are enough: one that says `TO`, and one that hides it
    refine ⟨hslashed, Classical.not_not.1 fun hplain => ?_⟩
    obtain ⟨named, b, hb, hne⟩ := exists_named_ne_of_not_isPlain hplain
    have hlead : ∀ q ∈ (p.map (PieceKind.filled named)).lead, q.kind ≠ .slashed := by
      intro q hq hkind
      obtain ⟨k, hk, rfl⟩ := List.mem_map.1 hq
      rw [PieceKind.kind_filled] at hkind
      exact hslashed (hkind ▸ hk)
    have htold := hfilled named
    rw [ofStatement?_text hlead] at htold
    exact hne ((controlled_eq_iff p.form _).1 (Option.some.inj htold) b hb)
  · rintro ⟨hslashed, hplain⟩ q rfl t ht
    have hlead : ∀ piece ∈ q.lead, piece.kind ≠ .slashed :=
      fun piece hpiece hkind => hslashed (hkind ▸ List.mem_map_of_mem hpiece)
    have hcontrol : Control.ofStatement? t = some q.form.control := by
      rw [← Control.ofStatement?_lower, ht, Control.ofStatement?_lower, ofStatement?_text hlead]
      exact congrArg some ((controlled_eq_iff q.form _).2 (named_eq_of_isPlain hplain))
    exact ⟨hcontrol, (StatementKind.ofStatement_eq_transaction_iff t).2 (by rw [hcontrol]; rfl)⟩

/-- Comments in front of the statement and of its savepoint, and blanks of all sorts between. -/
def returning : Phrase Piece where
  form := .rollbackTo (some .work) true (.quoted "to")
  lead := [.line " TO".toList (by decide), .block " c ".toList (by decide) (by decide), .blank ' ' (by decide)]
  gaps := [⟨.blank '\t' (by decide), []⟩, ⟨.blank '\n' (by decide), [.blank ' ' (by decide)]⟩,
    ⟨.block "*".toList (by decide) (by decide), []⟩, ⟨.line "".toList (by decide), []⟩]
  count := rfl

theorem recognised_returning :
    Control.ofStatement? "-- TO\n/* c */ Rollback\twork\n to/***/SavePoint--\n\"to\"".toList = some .rollbackTo := by
  have hplain : ∀ k ∈ [PieceKind.blank, .blank, .blank], k = .blank := by decide
  have hall := (recognised_iff (returning.map Piece.kind)).2 ⟨by decide, hplain⟩ returning rfl
  exact (hall _ (by decide)).1

/-- A comment hides `TO`, another one is read as it, and one in front of the statement is read as the
statement. -/
theorem not_recognised :
    Control.ofStatement? "ROLLBACK /* c */ TO a".toList = some .rollback ∧
      Control.ofStatement? "ROLLBACK/* TO */WORK".toList = some .rollbackTo ∧
      Control.ofStatement? "/*/ c */ COMMIT".toList = none := by
  decide

end Phrase

end DeclaredTriggers.Sql
