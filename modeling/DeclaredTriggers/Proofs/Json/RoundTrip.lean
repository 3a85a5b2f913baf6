import DeclaredTriggers.Json.Reader

/-!
# Documents read back

What is written as JSON is read back as it was, except for numbers, whose text may not lead back to them. A
string is read back character by character: those that were escaped come back as the character or the code that
the escape stands for, and all others as themselves. A value is read back from its first character on, whatever
follows it, if there is enough fuel for its length.

> `Json.readText?_printed`: a string is read up to its quote.
>
> `Json.parse?_print`: the text of a value without numbers spells that value.
-/

namespace DeclaredTriggers.Json

/-! ## Strings -/

/-- What a character inside a string is read as. -/
def pieceOf (c : Char) : Piece :=
  if c.toNat < 32 && ['\x08', '\x0c', '\n', '\r', '\t'].all (c ≠ ·) then .code c.toNat else .char c

theorem hexFour?_control : ∀ n < 32, hexFour? '0' '0' (Nat.digitChar (n / 16)) (Nat.digitChar (n % 16)) =
    some n := by decide

theorem readText?_escaped (c : Char) (s : List Char) :
    readText? (escapedChar c ++ s) = (readText? s).map fun (t, after) => (pieceOf c :: t, after) := by
  unfold escapedChar
  split
  next h => subst h; rfl
  next hquote =>
  split
  next h => subst h; rfl
  next hslash =>
  split
  next h => subst h; rfl
  next hbackspace =>
  split
  next h => subst h; rfl
  next hfeed =>
  split
  next h => subst h; rfl
  next hnewline =>
  split
  next h => subst h; rfl
  next hreturn =>
  split
  next h => subst h; rfl
  next htab =>
  split
  next hcontrol =>
    have hpiece : pieceOf c = .code c.toNat := by
      simp [pieceOf, hcontrol, hbackspace, hfeed, hnewline, hreturn, htab]
    simp only [controlEscape, List.cons_append, List.nil_append, readText?, hexFour?_control _ hcontrol, hpiece]
  next hcontrol =>
    have hpiece : pieceOf c = .char c := by simp [pieceOf, hcontrol]
    rw [List.singleton_append, readText?.eq_5 c s hquote (fun _ _ _ _ _ h => absurd h hslash)
      (fun _ _ h => absurd h hslash), if_neg (by simp [hcontrol, hslash]), hpiece]

/-- An escape by a code is one of a character. -/
theorem charsOf_code {n : Nat} (h : n < 32) (t : List Piece) :
    charsOf (.code n :: t) = (charsOf t).map (Char.ofNat n :: ·) := by
  have hlow : ∀ n < 32, isLowSurrogate n = false := by decide
  have hhigh : ∀ n < 32, isHighSurrogate n = false := by decide
  rw [charsOf.eq_def]
  simp only [hlow n h, hhigh n h, Bool.false_eq_true, if_false]

theorem charsOf_pieceOf (c : Char) (t : List Piece) :
    charsOf (pieceOf c :: t) = (charsOf t).map (c :: ·) := by
  unfold pieceOf
  split
  next h =>
    have hcode : c.toNat < 32 := by simpa using (Bool.and_eq_true_iff.1 h).1
    rw [charsOf_code hcode, Char.ofNat_toNat]
  next => rfl

theorem readText?_printed (s rest : List Char) :
    readText? (s.flatMap escapedChar ++ '"' :: rest) = some (s.map pieceOf, rest) := by
  induction s with
  | nil => rfl
  | cons c s ih =>
    rw [List.flatMap_cons, List.append_assoc, readText?_escaped, ih]
    rfl

theorem charsOf_map_pieceOf (s : List Char) : charsOf (s.map pieceOf) = some s := by
  induction s with
  | nil => rfl
  | cons c s ih =>
    rw [List.map_cons, charsOf_pieceOf, ih]
    rfl

theorem textOf_map_pieceOf (s : String) : textOf (s.toList.map pieceOf) = some s := by
  unfold textOf
  rw [charsOf_map_pieceOf, Option.map_some, String.ofList_toList]

/-! ## Values -/

mutual

/-- Whether a value has no numbers, and each of its strings has a text. -/
def isTextual : Json → Bool
  | .null | .bool _ => true
  | .number _ => false
  | .text s => s.isSome
  | .array items => itemsTextual items
  | .object members => membersTextual members

def itemsTextual : List Json → Bool
  | [] => true
  | v :: vs => isTextual v && itemsTextual vs

def membersTextual : List (Option String × Json) → Bool
  | [] => true
  | (k, v) :: ms => k.isSome && isTextual v && membersTextual ms

end

/-- A value begins with a character that is no blank and closes no array. -/
theorem exists_print_eq {v : Json} (h : v.isTextual) :
    ∃ c s, v.print = c :: s ∧ isBlank c = false ∧ c ≠ ']' := by
  cases v with
  | null => exact ⟨'n', _, rfl, rfl, by decide⟩
  | bool b =>
    cases b with
    | true => exact ⟨'t', _, rfl, rfl, by decide⟩
    | false => exact ⟨'f', _, rfl, rfl, by decide⟩
  | number x => cases h
  | text s => exact ⟨'"', _, rfl, rfl, by decide⟩
  | array items => exact ⟨'[', _, rfl, rfl, by decide⟩
  | object members => exact ⟨'\x7b', _, rfl, rfl, by decide⟩

theorem skipBlanks_cons {c : Char} (h : isBlank c = false) (s : List Char) : skipBlanks (c :: s) = c :: s :=
  List.dropWhile_cons_of_neg (by simp [h])

theorem printItems_cons (v next : Json) (vs : List Json) :
    printItems (v :: next :: vs) = v.print ++ ',' :: printItems (next :: vs) := rfl

theorem printMembers_cons (k : Option String) (v : Json) (next : Option String × Json)
    (ms : List (Option String × Json)) :
    printMembers ((k, v) :: next :: ms) =
      printedText (k.getD "") ++ ':' :: v.print ++ ',' :: printMembers (next :: ms) := rfl

/-- The text of an array's values begins as its first value does. -/
theorem exists_printItems_eq {vs : List Json} (h : itemsTextual vs) (hne : vs ≠ []) :
    ∃ c s, printItems vs = c :: s ∧ isBlank c = false ∧ c ≠ ']' := by
  obtain ⟨v, vs, rfl⟩ := List.exists_cons_of_ne_nil hne
  obtain ⟨c, s, hprint, hblank, hclose⟩ := exists_print_eq (Bool.and_eq_true_iff.1 h).1
  cases vs with
  | nil => exact ⟨c, s, hprint, hblank, hclose⟩
  | cons next vs => exact ⟨c, s ++ ',' :: printItems (next :: vs), by simp [printItems, hprint], hblank, hclose⟩

theorem exists_printMembers_eq (k : Option String) (v : Json) (ms : List (Option String × Json)) :
    ∃ s, printMembers ((k, v) :: ms) = '"' :: s := by
  cases ms with
  | nil => exact ⟨_, rfl⟩
  | cons next ms => exact ⟨_, rfl⟩

theorem readValue?_bracket (fuel : Nat) (s : List Char) :
    readValue? (fuel + 1) ('[' :: s) = (match skipBlanks s with
      | ']' :: after => some (array [], after)
      | _ => (readItems? fuel s).map fun (vs, after) => (array vs, after)) := rfl

/-- What stands in an array that has values is read as values. -/
theorem readValue?_array {fuel : Nat} {s t : List Char} {c : Char} (hs : s = c :: t) (hblank : isBlank c = false)
    (hclose : c ≠ ']') :
    readValue? (fuel + 1) ('[' :: s) = (readItems? fuel s).map fun (vs, after) => (array vs, after) := by
  subst hs
  rw [readValue?_bracket, skipBlanks_cons hblank]
  split
  next heq => exact absurd (List.cons.inj heq).1 hclose
  next => rfl

/-- A member is read up to the colon behind its name. -/
theorem readMembers?_name (fuel : Nat) (k : String) (s : List Char) :
    readMembers? (fuel + 1) (printedText k ++ ':' :: s) = (do
      let (v, after) ← readValue? fuel s
      match skipBlanks after with
      | '\x7d' :: rest => pure ([(some k, v)], rest)
      | ',' :: rest =>
        let (ms, rest) ← readMembers? fuel rest
        pure ((some k, v) :: ms, rest)
      | _ => none) := by
  have htext : readText? (k.toList.flatMap escapedChar ++ ['"'] ++ ':' :: s) =
      some (k.toList.map pieceOf, ':' :: s) := by
    rw [List.append_assoc]
    exact readText?_printed k.toList (':' :: s)
  show (readText? (k.toList.flatMap escapedChar ++ ['"'] ++ ':' :: s) >>= _) = _
  rw [htext, ← textOf_map_pieceOf k]
  rfl

mutual

/-- A value is read back from its text, whatever follows, with two units of fuel for each character. -/
theorem readValue?_print : ∀ (v : Json) (fuel : Nat) (rest : List Char), v.isTextual →
    2 * v.print.length ≤ fuel → readValue? fuel (v.print ++ rest) = some (v, rest)
  | v, 0, _, h, hfuel => by
    obtain ⟨c, s, hprint, -, -⟩ := exists_print_eq h
    rw [hprint] at hfuel
    simp at hfuel
  | .null, fuel + 1, rest, _, _ => rfl
  | .bool true, fuel + 1, rest, _, _ => rfl
  | .bool false, fuel + 1, rest, _, _ => rfl
  | .number x, _, _, h, _ => nomatch h
  | .text none, _, _, h, _ => nomatch h
  | .text (some s), fuel + 1, rest, _, _ => by
    show (readText? (s.toList.flatMap escapedChar ++ ['"'] ++ rest)).map _ = _
    rw [List.append_assoc, List.singleton_append, readText?_printed, Option.map_some]
    simp only [textOf_map_pieceOf]
  | .array [], fuel + 1, rest, _, _ => rfl
  | .array (v :: vs), fuel + 1, rest, h, hfuel => by
    have hitems := readItems?_print (v :: vs) (List.cons_ne_nil v vs) fuel rest h (by
      simp only [print, List.length_cons, List.length_append] at hfuel
      omega)
    obtain ⟨c, s, hprint, hblank, hclose⟩ := exists_printItems_eq h (List.cons_ne_nil v vs)
    rw [print, List.cons_append, List.cons_append, List.append_assoc, List.singleton_append,
      readValue?_array (by rw [hprint, List.cons_append]) hblank hclose, hitems]
    rfl
  | .object [], fuel + 1, rest, _, _ => rfl
  | .object ((k, v) :: ms), fuel + 1, rest, h, hfuel => by
    have hmembers := readMembers?_print ((k, v) :: ms) (List.cons_ne_nil _ ms) fuel rest h (by
      simp only [print, List.length_cons, List.length_append] at hfuel
      omega)
    obtain ⟨s, hprint⟩ := exists_printMembers_eq k v ms
    rw [print, List.cons_append, List.cons_append, List.append_assoc, List.singleton_append]
    rw [hprint, List.cons_append] at hmembers ⊢
    show (readMembers? fuel ('"' :: (s ++ '\x7d' :: rest))).map _ = _
    rw [hmembers]
    rfl

/-- Values with commas between them are read back up to the bracket behind them. -/
theorem readItems?_print : ∀ (vs : List Json) (_ : vs ≠ []) (fuel : Nat) (rest : List Char),
    itemsTextual vs → 2 * (printItems vs).length < fuel →
      readItems? fuel (printItems vs ++ ']' :: rest) = some (vs, rest)
  | [], hne, _, _, _, _ => absurd rfl hne
  | [v], _, fuel + 1, rest, h, hfuel => by
    have hv := readValue?_print v fuel (']' :: rest) (Bool.and_eq_true_iff.1 h).1 (by
      simp only [printItems] at hfuel
      omega)
    rw [readItems?, printItems, hv]
    rfl
  | v :: next :: vs, _, fuel + 1, rest, h, hfuel => by
    simp only [printItems, List.length_append, List.length_cons] at hfuel
    obtain ⟨hv, hvs⟩ := Bool.and_eq_true_iff.1 h
    have hfirst := readValue?_print v fuel (',' :: (printItems (next :: vs) ++ ']' :: rest)) hv (by
      omega)
    have hothers := readItems?_print (next :: vs) (List.cons_ne_nil next vs) fuel rest hvs (by omega)
    rw [printItems_cons, List.append_assoc, List.cons_append, readItems?, hfirst]
    show (readItems? fuel (printItems (next :: vs) ++ ']' :: rest) >>= _) = _
    rw [hothers]
    rfl

/-- Members with commas between them are read back up to the brace behind them. -/
theorem readMembers?_print : ∀ (ms : List (Option String × Json)) (_ : ms ≠ []) (fuel : Nat)
    (rest : List Char), membersTextual ms → 2 * (printMembers ms).length < fuel →
      readMembers? fuel (printMembers ms ++ '\x7d' :: rest) = some (ms, rest)
  | [], hne, _, _, _, _ => absurd rfl hne
  | (none, _) :: _, _, _, _, h, _ => nomatch h
  | [(some k, v)], _, fuel + 1, rest, h, hfuel => by
    have hv := readValue?_print v fuel ('\x7d' :: rest) (Bool.and_eq_true_iff.1 h).1 (by
      simp only [printMembers, List.length_append, List.length_cons] at hfuel
      omega)
    rw [printMembers, List.append_assoc, List.cons_append, Option.getD_some, readMembers?_name, hv]
    rfl
  | (some k, v) :: next :: ms, _, fuel + 1, rest, h, hfuel => by
    simp only [printMembers_cons, List.length_append, List.length_cons] at hfuel
    obtain ⟨hv, hms⟩ := Bool.and_eq_true_iff.1 h
    have hfirst := readValue?_print v fuel (',' :: (printMembers (next :: ms) ++ '\x7d' :: rest)) hv (by
      omega)
    have hothers := readMembers?_print (next :: ms) (List.cons_ne_nil next ms) fuel rest hms (by omega)
    rw [printMembers_cons, Option.getD_some, List.append_assoc, List.append_assoc, List.cons_append,
      List.cons_append, readMembers?_name, hfirst]
    show (readMembers? fuel (printMembers (next :: ms) ++ '\x7d' :: rest) >>= _) = _
    rw [hothers]
    rfl

end

/-- The text of a value without numbers spells that value. -/
theorem parse?_print {v : Json} (h : v.isTextual) : parse? (String.ofList v.print) = some v := by
  have hread := readValue?_print v (2 * v.print.length + 2) [] h (by omega)
  rw [List.append_nil] at hread
  unfold parse?
  simp only [String.toList_ofList, hread]
  rfl

end DeclaredTriggers.Json
