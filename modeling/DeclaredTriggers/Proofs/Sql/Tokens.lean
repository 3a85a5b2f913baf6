import DeclaredTriggers.Proofs.Sql.Fragments
import DeclaredTriggers.Trigger.Operation

/-!
# Words, names and literals

What a database reads a statement as: words, names between double quotes, literals, and other characters.
A text is read character by character. What has been read of a text put together from two is what was read
of each, if a blank stands between them and no quotes are left open (`Spells`):

> `Spells.blank`: so a statement is read piece by piece.
>
> `spells_quoteName`: a name that was quoted is read as that name.
-/

namespace DeclaredTriggers.Sql

open Text (isBlank replaced)

/-- A part of a statement. -/
inductive Token where
  | word (text : List Char)
  /-- A name between double quotes. -/
  | name (text : List Char)
  | literal (text : List Char)
  | mark (c : Char)
  deriving DecidableEq

namespace Token

/-- Whether a token is a keyword, in any letter case. -/
def isKeyword (keyword : String) : Token → Bool
  | .word text => text.map Char.toUpper = keyword.toList
  | .name _ | .literal _ | .mark _ => false

/-- The name that a token stands for: a bare one is folded. -/
def name? : Token → Option String
  | .word text => some (String.ofList (text.map Char.toLower))
  | .name text => some (String.ofList text)
  | .literal _ | .mark _ => none

end Token

/-- What a reader is in the middle of, and what it has read of it, the newest character first. Quotes are
those of a name or those of a literal. -/
inductive Reading where
  | between
  | word (sofar : List Char)
  | quoted (ofName : Bool) (sofar : List Char)
  /-- Behind a quote that is the last, unless a second one follows. -/
  | quoteEnd (ofName : Bool) (sofar : List Char)
  deriving DecidableEq

namespace Reading

/-- The quote that stands around a name or a literal. -/
def quote : Bool → Char
  | true => '"'
  | false => '\''

/-- The token that ends here, if one does. -/
def ended : Reading → List Token
  | .between => []
  | .word sofar => [.word sofar.reverse]
  | .quoted true sofar | .quoteEnd true sofar => [.name sofar.reverse]
  | .quoted false sofar | .quoteEnd false sofar => [.literal sofar.reverse]

/-- The tokens and the reading that a character gives in the middle of nothing. -/
def start (c : Char) : List Token × Reading :=
  if isWordCharacter c then ([], .word [c])
  else if c = '"' then ([], .quoted true [])
  else if c = '\'' then ([], .quoted false [])
  else if isBlank c then ([], .between)
  else ([.mark c], .between)

/-- The tokens and the reading that one more character gives. -/
def step (m : Reading) (c : Char) : List Token × Reading :=
  match m with
  | .between => start c
  | .word sofar =>
    if isWordCharacter c then ([], .word (c :: sofar)) else (m.ended ++ (start c).1, (start c).2)
  | .quoted ofName sofar =>
    if c = quote ofName then ([], .quoteEnd ofName sofar) else ([], .quoted ofName (c :: sofar))
  | .quoteEnd ofName sofar =>
    if c = quote ofName then ([], .quoted ofName (c :: sofar))
    else (m.ended ++ (start c).1, (start c).2)

/-- The tokens and the reading that a text gives. -/
def read (m : Reading) : List Char → List Token × Reading
  | [] => ([], m)
  | c :: s => ((m.step c).1 ++ (read (m.step c).2 s).1, (read (m.step c).2 s).2)

theorem read_nil (m : Reading) : m.read [] = ([], m) := rfl

theorem read_cons (m : Reading) (c : Char) (s : List Char) :
    m.read (c :: s) = ((m.step c).1 ++ ((m.step c).2.read s).1, ((m.step c).2.read s).2) := rfl

theorem read_append (m : Reading) (a b : List Char) :
    m.read (a ++ b) = ((m.read a).1 ++ ((m.read a).2.read b).1, ((m.read a).2.read b).2) := by
  induction a generalizing m with
  | nil => rfl
  | cons c a ih => rw [List.cons_append, read_cons, read_cons, ih, List.append_assoc]

/-- The tokens of the rest of a text. -/
def rest (m : Reading) (s : List Char) : List Token := (m.read s).1 ++ (m.read s).2.ended

theorem rest_append (m : Reading) (a b : List Char) :
    m.rest (a ++ b) = (m.read a).1 ++ (m.read a).2.rest b := by
  unfold rest
  rw [read_append, List.append_assoc]

/-- Whether no quotes are open. -/
def isSettled : Reading → Bool
  | .quoted .. => false
  | .between | .word _ | .quoteEnd .. => true

/-- A blank ends what is in the middle of no quotes. -/
theorem step_blank {m : Reading} (h : m.isSettled) {c : Char} (hc : isBlank c) :
    m.step c = (m.ended, .between) := by
  have hword : isWordCharacter c = false := by
    cases hw : isWordCharacter c with
    | false => rfl
    | true => exact absurd hc (by simp [(word_character hw).1])
  have hname : c ≠ '"' := by
    rintro rfl
    revert hc
    decide
  have hliteral : c ≠ '\'' := by
    rintro rfl
    revert hc
    decide
  have hstart : start c = ([], .between) := by
    unfold start
    simp [hword, hname, hliteral, hc]
  cases m with
  | between => exact hstart
  | word sofar =>
    unfold step
    simp [hword, hstart]
  | quoteEnd ofName sofar =>
    have hquote : c ≠ quote ofName := by cases ofName <;> assumption
    unfold step
    simp [hquote, hstart]
  | quoted _ _ => cases h

end Reading

/-- The tokens of a text. -/
def tokens (s : List Char) : List Token := Reading.between.rest s

/-- A text that leaves no quotes open, and its tokens. -/
structure Spells (s : List Char) (ts : List Token) : Prop where
  tokens : tokens s = ts
  settled : (Reading.between.read s).2.isSettled

namespace Spells

variable {a b : List Char} {ts us : List Token}

theorem nil : Spells [] [] := ⟨rfl, rfl⟩

/-- What stands behind a blank is read as if it stood alone. -/
theorem tokens_blank (ha : Spells a ts) {c : Char} (hc : isBlank c) (b : List Char) :
    Sql.tokens (a ++ c :: b) = ts ++ Sql.tokens b := by
  have hrest : (Reading.between.read a).2.rest (c :: b) =
      (Reading.between.read a).2.ended ++ Reading.between.rest b := by
    have hone := (Reading.between.read a).2.rest_append [c] b
    rw [Reading.read_cons, Reading.step_blank ha.settled hc] at hone
    simpa [Reading.read_nil] using hone
  unfold Sql.tokens
  rw [Reading.rest_append, hrest, ← List.append_assoc]
  exact congrArg (· ++ _) ha.tokens

/-- Whatever follows a text behind a blank, its tokens stay the first. -/
theorem tokens_front (ha : Spells a ts) {r : List Char} (hr : ∀ c ∈ r.head?, isBlank c) :
    ∃ more, Sql.tokens (a ++ r) = ts ++ more := by
  cases r with
  | nil => exact ⟨[], by rw [List.append_nil, List.append_nil, ha.tokens]⟩
  | cons c r => exact ⟨_, ha.tokens_blank (hr c rfl) r⟩

/-- Texts with a blank between them. -/
theorem blank (ha : Spells a ts) {c : Char} (hc : isBlank c) (hb : Spells b us) :
    Spells (a ++ c :: b) (ts ++ us) where
  tokens := by rw [ha.tokens_blank hc, hb.tokens]
  settled := by
    rw [Reading.read_append, Reading.read_cons, Reading.step_blank ha.settled hc]
    exact hb.settled

/-- A text behind blanks. -/
theorem blanks (ha : Spells a ts) {s : List Char} (hs : ∀ c ∈ s, isBlank c) (hne : s ≠ [])
    (hb : Spells b us) : Spells (a ++ (s ++ b)) (ts ++ us) := by
  induction s generalizing a ts with
  | nil => exact absurd rfl hne
  | cons c s ih =>
    have hc := hs c List.mem_cons_self
    cases s with
    | nil => exact ha.blank hc hb
    | cons d s =>
      have hrest : Spells ([] ++ (d :: s ++ b)) ([] ++ us) :=
        ih .nil (fun x hx => hs x (List.mem_cons_of_mem _ hx)) (List.cons_ne_nil _ _)
      exact ha.blank hc hrest

end Spells

theorem spells_word {w : List Char} (h : ∀ c ∈ w, isWordCharacter c) (hne : w ≠ []) :
    Spells w [.word w] := by
  have hread : ∀ (w sofar : List Char), (∀ c ∈ w, isWordCharacter c) →
      (Reading.word sofar).read w = ([], .word (w.reverse ++ sofar)) := by
    intro w
    induction w with
    | nil => exact fun _ _ => rfl
    | cons c w ih =>
      intro sofar hw
      have hstep : (Reading.word sofar).step c = ([], .word (c :: sofar)) :=
        if_pos (hw c List.mem_cons_self)
      rw [Reading.read_cons, hstep, ih _ fun d hd => hw d (List.mem_cons_of_mem _ hd)]
      simp
  cases w with
  | nil => exact absurd rfl hne
  | cons c w =>
    have hstep : Reading.between.step c = ([], .word [c]) := if_pos (h c List.mem_cons_self)
    have hall : Reading.between.read (c :: w) = ([], .word (w.reverse ++ [c])) := by
      rw [Reading.read_cons, hstep, hread w [c] fun d hd => h d (List.mem_cons_of_mem _ hd)]
      rfl
    refine ⟨?_, by rw [hall]; rfl⟩
    unfold tokens Reading.rest
    rw [hall]
    simp [Reading.ended]

/-- Words with a blank between them. -/
theorem spells_phrase {ws : List String} (h : ∀ w ∈ ws, (∀ c ∈ w.toList, isWordCharacter c) ∧ w.toList ≠ []) :
    Spells (" ".intercalate ws).toList (ws.map (Token.word ·.toList)) := by
  induction ws with
  | nil => exact .nil
  | cons w ws ih =>
    have hone := h w List.mem_cons_self
    have hword := spells_word hone.1 hone.2
    have hrest := ih fun v hv => h v (List.mem_cons_of_mem _ hv)
    cases ws with
    | nil => rwa [String.intercalate_singleton]
    | cons next ws =>
      rw [String.intercalate_cons_cons, String.toList_append, String.toList_append, List.append_assoc]
      exact hword.blank (by decide) hrest

/-- Between quotes, a text is read as it is, and two quotes as one. -/
theorem read_replaced (ofName : Bool) (sofar s : List Char) :
    (Reading.quoted ofName sofar).read
        (replaced (Reading.quote ofName) [Reading.quote ofName, Reading.quote ofName] s) =
      ([], .quoted ofName (s.reverse ++ sofar)) := by
  induction s generalizing sofar with
  | nil => rfl
  | cons c s ih =>
    show (Reading.quoted ofName sofar).read ((if c = Reading.quote ofName then _ else _) ++
      replaced _ _ s) = _
    by_cases hc : c = Reading.quote ofName
    · subst hc
      rw [if_pos rfl, Reading.read_append]
      have hpair : (Reading.quoted ofName sofar).read [Reading.quote ofName, Reading.quote ofName] =
          ([], .quoted ofName (Reading.quote ofName :: sofar)) := by
        simp [Reading.read, Reading.step]
      rw [hpair, ih]
      simp
    · rw [if_neg hc, Reading.read_append]
      have hone : (Reading.quoted ofName sofar).read [c] = ([], .quoted ofName (c :: sofar)) := by
        simp [Reading.read, Reading.step, hc]
      rw [hone, ih]
      simp

/-- A quoted name is read as that name. -/
theorem spells_quoteName (name : String) : Spells (quoteName name).toList [.name name.toList] := by
  have hread : Reading.between.read (quoteName name).toList =
      ([], .quoteEnd true name.toList.reverse) := by
    have hopen : Reading.between.step '"' = ([], .quoted true []) := rfl
    have hall : (Reading.quoted true []).read (replaced '"' ['"', '"'] name.toList) =
        ([], .quoted true name.toList.reverse) :=
      (read_replaced true [] name.toList).trans (by rw [List.append_nil])
    rw [quoteName_eq, List.cons_append, Reading.read_cons, hopen, Reading.read_append]
    simp only [hall]
    rfl
  refine ⟨?_, by rw [hread]; rfl⟩
  unfold tokens Reading.rest
  rw [hread]
  simp [Reading.ended]

/-- A text without quotes is read as a literal. -/
theorem spells_literal {s : List Char} (h : '\'' ∉ s) : Spells ('\'' :: s ++ ['\'']) [.literal s] := by
  have hread : Reading.between.read ('\'' :: s ++ ['\'']) = ([], .quoteEnd false s.reverse) := by
    have hopen : Reading.between.step '\'' = ([], .quoted false []) := rfl
    have hall : (Reading.quoted false []).read (replaced '\'' ['\'', '\''] s) =
        ([], .quoted false s.reverse) := (read_replaced false [] s).trans (by rw [List.append_nil])
    rw [replaced_of_not_mem h] at hall
    rw [List.cons_append, Reading.read_cons, hopen, Reading.read_append]
    simp only [hall]
    rfl
  refine ⟨?_, by rw [hread]; rfl⟩
  unfold tokens Reading.rest
  rw [hread]
  simp [Reading.ended]

/-- A character of a plain name stands for itself. -/
theorem plain_character {c : Char} (h : c.isLower || c.isDigit || c = '_') :
    isWordCharacter c ∧ c.toLower = c := by
  have hword : isWordCharacter c := by
    simp only [Bool.or_eq_true, decide_eq_true_eq] at h
    unfold isWordCharacter Char.isAlphanum Char.isAlpha
    rcases h with (h | h) | h <;> simp [h]
  refine ⟨hword, ?_⟩
  have hall : ∀ n < 128, (Char.ofNat n).isLower || (Char.ofNat n).isDigit || Char.ofNat n = '_' →
      (Char.ofNat n).toLower = Char.ofNat n := by decide
  refine forall_ascii (P := fun c => c.isLower || c.isDigit || c = '_' → c.toLower = c) hall c ?_ h
  refine Definition.toNat_lt_of_isNameCharacter ?_
  unfold isWordCharacter at hword
  unfold Definition.isNameCharacter
  rw [hword]
  rfl

/-- A trigger's identifier is read as the name that it is, quoted or not. -/
theorem spells_triggerName {pgid : String} (h : pgid ≠ "") :
    ∃ t : Token, Spells (triggerName pgid).toList [t] ∧ t.name? = some pgid := by
  unfold triggerName
  split
  next hplain =>
    have hcharacter : ∀ c ∈ pgid.toList, isWordCharacter c ∧ c.toLower = c :=
      fun c hc => plain_character (List.all_eq_true.1 hplain c hc)
    have hne : pgid.toList ≠ [] := by simpa using h
    refine ⟨.word pgid.toList, spells_word (fun c hc => (hcharacter c hc).1) hne, ?_⟩
    show some (String.ofList (pgid.toList.map Char.toLower)) = _
    rw [List.map_congr_left fun c hc => (hcharacter c hc).2, List.map_id', String.ofList_toList]
  next =>
    refine ⟨.name pgid.toList, spells_quoteName pgid, ?_⟩
    show some (String.ofList pgid.toList) = _
    rw [String.ofList_toList]

/-! ## Operations -/

/-- A text that stays in its place and does not say what a statement is on. -/
structure Inert (s : List Char) : Prop where
  closed : isClosed s
  spells : ∃ ts, Spells s ts ∧ ∀ t ∈ ts, t.isKeyword "ON" = false

namespace Inert

theorem nil : Inert [] := ⟨rfl, [], .nil, by simp⟩

theorem blank {a b : List Char} (ha : Inert a) (hb : Inert b) : Inert (a ++ ' ' :: b) := by
  obtain ⟨ts, hts, hon⟩ := ha.spells
  obtain ⟨us, hus, hon'⟩ := hb.spells
  refine ⟨isClosed_fragment ha.closed rfl (isClosed_append (s := [' ']) (by decide) hb.closed),
    ts ++ us, hts.blank (by decide) hus, fun t ht => ?_⟩
  exact (List.mem_append.1 ht).elim (hon t) (hon' t)

theorem word {w : List Char} (h : ∀ c ∈ w, isWordCharacter c) (hne : w ≠ [])
    (hon : (Token.word w).isKeyword "ON" = false) : Inert w := by
  refine ⟨?_, _, spells_word h hne, fun t ht => by rwa [List.mem_singleton.1 ht]⟩
  unfold isClosed
  rw [through_word h]
  rfl

theorem quoteName (name : String) : Inert (quoteName name).toList :=
  ⟨isClosed_quoteName name, _, spells_quoteName name, fun t ht => by rw [List.mem_singleton.1 ht]; rfl⟩

/-- A comma behind a text. -/
theorem comma {a : List Char} (h : Inert a) : Inert (a ++ [',']) := by
  obtain ⟨ts, hts, hon⟩ := h.spells
  have hstep : (Reading.between.read a).2.step ',' =
      ((Reading.between.read a).2.ended ++ [.mark ','], .between) := by
    have hsettled := hts.settled
    generalize (Reading.between.read a).2 = m at hsettled ⊢
    rcases m with _ | _ | ⟨_, _⟩ | ⟨_ | _, _⟩
    · rfl
    · rfl
    · cases hsettled
    · rfl
    · rfl
  have hread : Reading.between.read (a ++ [',']) = (ts ++ [.mark ','], .between) := by
    rw [Reading.read_append, Reading.read_cons, hstep]
    have htokens : (Reading.between.read a).1 ++ (Reading.between.read a).2.ended = ts := hts.tokens
    simp [Reading.read_nil, ← htokens]
  refine ⟨isClosed_fragment h.closed rfl (by decide), ts ++ [.mark ','], ⟨?_, by rw [hread]; rfl⟩, ?_⟩
  · unfold Sql.tokens Reading.rest
    rw [hread]
    exact List.append_nil _
  · intro t ht
    rcases List.mem_append.1 ht with ht | ht
    · exact hon t ht
    · rw [List.mem_singleton.1 ht]
      rfl

/-- Texts with a separator between them that ends in a blank. -/
theorem intercalate {sep : String} {texts : List String}
    (hsep : ∀ {a b : List Char}, Inert a → Inert b → Inert (a ++ (sep.toList ++ b)))
    (h : ∀ text ∈ texts, Inert text.toList) : Inert (sep.intercalate texts).toList := by
  induction texts with
  | nil => exact nil
  | cons text texts ih =>
    have hone := h text List.mem_cons_self
    have hrest := ih fun t ht => h t (List.mem_cons_of_mem _ ht)
    cases texts with
    | nil => rwa [String.intercalate_singleton]
    | cons next texts =>
      rw [String.intercalate_cons_cons, String.toList_append, String.toList_append, List.append_assoc]
      exact hsep hone hrest

end Inert

end DeclaredTriggers.Sql

namespace DeclaredTriggers.Operation

open Sql (Inert)

mutual

/-- The columns that an operation names. -/
def columns : Operation → List String
  | .insert | .update | .delete | .truncate => []
  | .updateOf cs => cs
  | .anyOf ops => columnsEach ops

/-- The columns that several operations name. -/
def columnsEach : List Operation → List String
  | [] => []
  | op :: ops => columns op ++ columnsEach ops

end

mutual

/-- An operation on columns without quotes says nothing else in a statement than what it is. -/
theorem inert_text (column : String → String) :
    ∀ op : Operation, (∀ c ∈ op.columns, '"' ∉ (column c).toList) → Inert (op.text column).toList
  | .insert, _ => by
    rw [text]
    exact .word (by decide) (by decide) (by decide)
  | .update, _ => by
    rw [text]
    exact .word (by decide) (by decide) (by decide)
  | .delete, _ => by
    rw [text]
    exact .word (by decide) (by decide) (by decide)
  | .truncate, _ => by
    rw [text]
    exact .word (by decide) (by decide) (by decide)
  | .updateOf cs, h => by
    have hnames : Inert (", ".intercalate (cs.map fun c => Sql.quote (column c))).toList := by
      refine Inert.intercalate (fun ha hb => ?_) fun text htext => ?_
      · have hall := ha.comma.blank hb
        rwa [List.append_assoc] at hall
      · obtain ⟨c, hc, rfl⟩ := List.mem_map.1 htext
        rw [Sql.quote_of_plain (h c hc)]
        exact .quoteName _
    have hupdate : Inert "UPDATE".toList := .word (by decide) (by decide) (by decide)
    have hof : Inert "OF".toList := .word (by decide) (by decide) (by decide)
    have hall := (hupdate.blank hof).blank hnames
    rw [text, String.toList_append]
    rwa [show "UPDATE".toList ++ ' ' :: "OF".toList ++ ' ' :: (", ".intercalate
      (cs.map fun c => Sql.quote (column c))).toList = "UPDATE OF ".toList ++ (", ".intercalate
        (cs.map fun c => Sql.quote (column c))).toList from rfl] at hall
  | .anyOf ops, h => by
    rw [text]
    refine Inert.intercalate (fun ha hb => ?_) (inert_texts column ops h)
    have hor : Inert "OR".toList := .word (by decide) (by decide) (by decide)
    have hall := (ha.blank hor).blank hb
    rw [List.append_assoc] at hall
    exact hall

theorem inert_texts (column : String → String) :
    ∀ ops : List Operation, (∀ c ∈ columnsEach ops, '"' ∉ (column c).toList) →
      ∀ t ∈ texts column ops, Inert t.toList
  | [], _ => by simp [texts]
  | op :: ops, h => by
    intro t ht
    rw [texts] at ht
    rcases List.mem_cons.1 ht with rfl | ht
    · exact inert_text column op fun c hc => h c (List.mem_append_left _ hc)
    · exact inert_texts column ops (fun c hc => h c (List.mem_append_right _ hc)) t ht

end

end DeclaredTriggers.Operation
