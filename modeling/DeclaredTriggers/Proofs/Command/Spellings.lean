import DeclaredTriggers.Command.Request
import DeclaredTriggers.Proofs.Sql.DollarQuotes

/-!
# Spellings of an option

An option's value stands behind a sign of equality or is the next word, and the name may be a short one. Words
are read from the left, each option with its value, so where a word is read as an option at all depends only on
the words in front of it (`isWhole`), and what is read behind them on the options so far:

> `readOptions_append`: words behind whole ones are read with the options that these gave.
>
> `spellings_exact`: the spellings of an option come to the same request everywhere exactly if its value does not
> begin like the option itself, and an option may stand on either side of URIs.

The lead of a value is taken off as often as it is there (`withoutLeads`), which is why a value that begins with
it is not the same behind the sign.
-/

namespace DeclaredTriggers.Command

/-! ## Spellings -/

namespace OptionName

/-- The name of an option. -/
def long : OptionName → String
  | .config => "--config"
  | .database => "--database"
  | .schema => "--schema"

/-- The words for an option whose value is the next word. -/
def names : OptionName → List String
  | .config => ["--config"]
  | .database => ["--database", "-d"]
  | .schema => ["--schema", "-s"]

/-- What stands in front of a value in one word. -/
def lead (n : OptionName) : String := n.long ++ "="

/-- The ways to write an option with its value. -/
def written (n : OptionName) (v : String) : List (List String) :=
  [n.lead ++ v] :: n.names.map fun name => [name, v]

/-- What is read of a value behind its lead. -/
def readBehind (n : OptionName) (v : String) : String :=
  String.ofList (withoutLeads n.lead.toList v.toList)

end OptionName

/-- Whether the words are read to an end before what follows them: no option at their end waits for its value. -/
def isWhole : List String → Bool
  | [] => true
  | word :: rest =>
    match wordOf word, rest with
    | .named _, [] => false
    | .named _, _ :: rest => isWhole rest
    | _, rest => isWhole rest

/-! ## Leads -/

theorem length_withoutLeads_le (lead s : List Char) : (withoutLeads lead s).length ≤ s.length := by
  fun_induction withoutLeads lead s with
  | case1 s rest _ hlt ih => exact Nat.le_trans ih (Nat.le_of_lt hlt)
  | case2 => exact Nat.le_refl _
  | case3 => exact Nat.le_refl _

theorem withoutLeads_append {lead : List Char} (hne : lead ≠ []) (s : List Char) :
    withoutLeads lead (lead ++ s) = withoutLeads lead s := by
  have hlt : s.length < (lead ++ s).length := by
    have := List.length_pos_iff.2 hne
    rw [List.length_append]
    omega
  rw [withoutLeads, Text.strip?_append]
  exact if_pos hlt

/-- A text keeps its beginning exactly if it is not the lead. -/
theorem withoutLeads_eq_iff {lead s : List Char} (hne : lead ≠ []) :
    withoutLeads lead s = s ↔ Text.begins lead s = false := by
  unfold Text.begins
  cases hstrip : Text.strip? lead s with
  | none =>
    rw [withoutLeads, hstrip]
    simp
  | some rest =>
    obtain rfl := Text.eq_append_of_strip? hstrip
    rw [withoutLeads_append hne]
    have hle := length_withoutLeads_le lead rest
    have hpos := List.length_pos_iff.2 hne
    refine ⟨fun h => ?_, fun h => by cases h⟩
    have hlength := congrArg List.length h
    rw [List.length_append] at hlength
    omega

theorem OptionName.readBehind_eq_iff {n : OptionName} {v : String} :
    n.readBehind v = v ↔ Text.begins n.lead.toList v.toList = false := by
  have hne : n.lead.toList ≠ [] := by cases n <;> decide
  rw [← withoutLeads_eq_iff hne, OptionName.readBehind]
  constructor
  · intro h
    rw [← String.toList_ofList (l := withoutLeads _ _), h]
  · intro h
    rw [h, String.ofList_toList]

/-! ## Words -/

theorem wordOf_of_mem_names {n : OptionName} {name : String} (h : name ∈ n.names) : wordOf name = .named n := by
  cases n <;> simp only [OptionName.names, List.mem_cons, List.not_mem_nil, or_false] at h
  case config => rw [h]; rfl
  all_goals rcases h with rfl | rfl <;> rfl

theorem assignment?_eq (word : String) :
    assignment? word =
      ((valueBehind? (OptionName.lead .config) word).map (.assigned .config)).or
        (((valueBehind? (OptionName.lead .database) word).map (.assigned .database)).or
          ((valueBehind? (OptionName.lead .schema) word).map (.assigned .schema))) :=
  rfl

/-- A word with a sign of equality in it is none of the fixed ones. -/
theorem wordOf_of_mem {word : String} (h : '=' ∈ word.toList) :
    wordOf word = (assignment? word).getD (if Text.begins ['-'] word.toList then .unknown else .uri) := by
  unfold wordOf
  split
  all_goals first | rfl | exact absurd h (by decide)

theorem wordOf_lead (n : OptionName) (v : String) : wordOf (n.lead ++ v) = .assigned n (n.readBehind v) := by
  have hmem : '=' ∈ (n.lead ++ v).toList := by
    rw [String.toList_append]
    exact List.mem_append_left _ (by cases n <;> decide)
  have hread (m : OptionName) :
      valueBehind? m.lead (n.lead ++ v) = if m = n then some (n.readBehind v) else none := by
    unfold valueBehind? OptionName.readBehind
    rw [String.toList_append]
    by_cases hmn : m = n
    · subst hmn
      have hne : m.lead.toList ≠ [] := by cases m <;> decide
      rw [if_pos rfl, withoutLeads_append hne, Text.begins, Text.strip?_append]
      rfl
    -- no option's lead is the beginning of another's
    · have hbegins : Text.begins m.lead.toList (n.lead.toList ++ v.toList) = false := by
        cases m <;> cases n <;> first | exact absurd rfl hmn | rfl
      rw [if_neg hmn, hbegins]
      rfl
  rw [wordOf_of_mem hmem, assignment?_eq, hread, hread, hread]
  cases n <;> rfl

/-- A word without a hyphen in front is a URI. -/
theorem wordOf_uri {word : String} (h : Text.begins ['-'] word.toList = false) : wordOf word = .uri := by
  have hread (n : OptionName) : valueBehind? n.lead word = none := by
    have hbegins : Text.begins n.lead.toList word.toList = false := by
      obtain ⟨lead, hlead⟩ : ∃ lead, n.lead.toList = '-' :: lead := by cases n <;> exact ⟨_, rfl⟩
      rw [hlead]
      cases hword : word.toList with
      | nil => rfl
      | cons c rest =>
        rw [hword, Text.begins_cons, Text.begins_nil, Bool.and_true] at h
        rw [Text.begins_cons, h, Bool.false_and]
    rw [valueBehind?, hbegins]
    rfl
  have hassignment : assignment? word = none := by
    rw [assignment?_eq, hread, hread, hread]
    rfl
  unfold wordOf
  split
  all_goals first
    | rw [hassignment, h]; rfl
    | exact absurd h (by decide)

/-! ## Words behind whole ones -/

variable (c : Command) (o : Options)

theorem readOptions_assigned {word value : String} {n : OptionName} (h : wordOf word = .assigned n value)
    (after : List String) : readOptions c o (word :: after) = readOptions c (o.add n value) after := by
  rw [readOptions.eq_def]
  simp only [h]

theorem readOptions_named {word : String} {n : OptionName} (h : wordOf word = .named n) (value : String)
    (after : List String) : readOptions c o (word :: value :: after) = readOptions c (o.add n value) after := by
  rw [readOptions.eq_def]
  simp only [h]

theorem readOptions_uris {uris : List String} (h : ∀ uri ∈ uris, Text.begins ['-'] uri.toList = false)
    (after : List String) :
    readOptions c o (uris ++ after) = readOptions c { o with uris := o.uris ++ uris } after := by
  induction uris generalizing o with
  | nil => rw [List.append_nil, List.nil_append]
  | cons uri uris ih =>
    rw [List.forall_mem_cons] at h
    simp only [List.cons_append, readOptions, wordOf_uri h.1]
    rw [ih _ h.2, List.append_assoc, List.singleton_append]

/-- Words behind whole ones are read with the options that these gave. -/
theorem readOptions_append {before : List String} (h : isWhole before) (after : List String) :
    readOptions c o (before ++ after) =
      readOptions c o before >>= fun
        | none => pure none
        | some o => readOptions c o after := by
  -- an option and its value are one step, so that the value is not looked at as a word of its own
  fun_induction isWhole before generalizing o with
  | case1 => rfl
  | case2 => cases h
  | case3 word name value rest hword ih =>
    rw [List.cons_append, List.cons_append, readOptions_named c o hword, readOptions_named c o hword]
    exact ih _ h
  | case4 word rest hnil hcons ih =>
    rw [List.cons_append]
    cases hword : wordOf word with
    | help => simp only [readOptions, hword]; rfl
    -- an option with its value is one of the cases before
    | named name =>
      cases rest with
      | nil => exact (hnil name hword rfl).elim
      | cons value rest => exact (hcons name value rest hword rfl).elim
    | assigned name value =>
      rw [readOptions_assigned c o hword, readOptions_assigned c o hword]
      exact ih _ h
    | noPrune =>
      simp only [readOptions, hword]
      split
      · exact ih _ h
      · rfl
    | unknown => simp only [readOptions, hword]; rfl
    | uri =>
      simp only [readOptions, hword]
      exact ih _ h

/-- Words that are read alike can stand for each other behind whole ones. -/
theorem ofWords_congr (word : String) {before xs ys : List String} (hbefore : isWhole before)
    (h : ∀ c o, readOptions c o xs = readOptions c o ys) :
    Request.ofWords (word :: (before ++ xs)) = Request.ofWords (word :: (before ++ ys)) := by
  unfold Request.ofWords
  simp only [readOptions_append _ _ hbefore, h]

/-! ## An option between other words -/

/-- However an option is written, the words behind it are read with its value added. -/
theorem exists_readOptions_written {n : OptionName} {v : String} {written : List String}
    (h : written ∈ n.written v) :
    ∃ value, ∀ c o after, readOptions c o (written ++ after) = readOptions c (o.add n value) after := by
  rcases List.mem_cons.1 h with rfl | h
  · exact ⟨n.readBehind v, fun c o after => readOptions_assigned c o (wordOf_lead n v) after⟩
  · obtain ⟨name, hname, rfl⟩ := List.mem_map.1 h
    exact ⟨v, fun c o after => readOptions_named c o (wordOf_of_mem_names hname) v after⟩

theorem Options.add_uris (n : OptionName) (v : String) (uris : List String) :
    ({ o with uris := o.uris ++ uris } : Options).add n v =
      { o.add n v with uris := (o.add n v).uris ++ uris } := by
  cases n <;> rfl

theorem Options.add_inj {n : OptionName} {v v' : String} : o.add n v = o.add n v' ↔ v = v' := by
  cases n <;> simp [Options.add]

theorem ofWords_ls_named {n : OptionName} {name : String} (h : name ∈ n.names) (v : String) :
    Request.ofWords ["ls", name, v] = .ok (.perform .list (({} : Options).add n v)) := by
  have hls : Request.ofWords ["ls", name, v] = (readOptions .list {} [name, v]).bind fun
      | none => pure (.help (some .list))
      | some o => Command.list.request o := rfl
  rw [hls, readOptions_named _ _ (wordOf_of_mem_names h)]
  cases n <;> rfl

/-- The spellings of an option come to the same request wherever an option is read exactly if its value does not
begin like the option itself. The value behind the sign of equality is otherwise what is left of it without such
beginnings. The names of one option can stand for each other, and an option can move past URIs. -/
theorem spellings_exact (n : OptionName) (v : String) :
    ((∀ (word : String) (before after : List String), isWhole before → ∀ name ∈ n.names,
        Request.ofWords (word :: (before ++ (n.lead ++ v) :: after)) =
          Request.ofWords (word :: (before ++ name :: v :: after))) ↔
      Text.begins n.lead.toList v.toList = false) ∧
    ∀ (word : String) (before after : List String), isWhole before →
      (∀ name ∈ n.names,
        Request.ofWords (word :: (before ++ (n.lead ++ v) :: after)) =
          Request.ofWords (word :: (before ++ name :: n.readBehind v :: after))) ∧
      (∀ name ∈ n.names, ∀ name' ∈ n.names,
        Request.ofWords (word :: (before ++ name :: v :: after)) =
          Request.ofWords (word :: (before ++ name' :: v :: after))) ∧
      ∀ uris : List String, (∀ uri ∈ uris, Text.begins ['-'] uri.toList = false) → ∀ written ∈ n.written v,
        Request.ofWords (word :: (before ++ (written ++ (uris ++ after)))) =
          Request.ofWords (word :: (before ++ (uris ++ (written ++ after)))) := by
  -- behind the sign the value is read without its leads
  have hread (word : String) (before after : List String) (hbefore : isWhole before) (name : String)
      (hname : name ∈ n.names) :
      Request.ofWords (word :: (before ++ (n.lead ++ v) :: after)) =
        Request.ofWords (word :: (before ++ name :: n.readBehind v :: after)) := by
    refine ofWords_congr word hbefore fun c o => ?_
    rw [readOptions_assigned c o (wordOf_lead n v), readOptions_named c o (wordOf_of_mem_names hname)]
  refine ⟨?_, fun word before after hbefore => ⟨hread word before after hbefore, ?_, ?_⟩⟩
  · rw [← OptionName.readBehind_eq_iff]
    constructor
    · intro hsame
      obtain ⟨name, hname⟩ : ∃ name, name ∈ n.names := by cases n <;> exact ⟨_, List.mem_cons_self⟩
      -- where nothing comes behind that could replace it, the value is part of the request
      have hls := (hread "ls" [] [] rfl name hname).symm.trans (hsame "ls" [] [] rfl name hname)
      rw [List.nil_append, List.nil_append, ofWords_ls_named hname, ofWords_ls_named hname] at hls
      exact Options.add_inj _ |>.1 (by injection hls with hls; injection hls)
    · intro hv word before after hbefore name hname
      rw [hread word before after hbefore name hname, hv]
  · intro name hname name' hname'
    refine ofWords_congr word hbefore fun c o => ?_
    rw [readOptions_named c o (wordOf_of_mem_names hname), readOptions_named c o (wordOf_of_mem_names hname')]
  · intro uris huris written hwritten
    obtain ⟨value, hvalue⟩ := exists_readOptions_written hwritten
    refine ofWords_congr word hbefore fun c o => ?_
    rw [hvalue, readOptions_uris c _ huris, readOptions_uris c _ huris, hvalue, Options.add_uris]

/-- A value that looks like an option, behind another option and in front of URIs. -/
theorem spellings_exact_schema :
    Request.ofWords ["ls", "-d", "main", "--schema=--config=x", "library.Book:frozen"] =
        Request.ofWords ["ls", "-d", "main", "-s", "--config=x", "library.Book:frozen"] ∧
      Request.ofWords ["ls", "-d", "main", "-s", "--config=x", "library.Book:frozen"] =
        Request.ofWords ["ls", "-d", "main", "library.Book:frozen", "-s", "--config=x"] :=
  have hexact := spellings_exact .schema "--config=x"
  ⟨hexact.1.2 (by decide) "ls" ["-d", "main"] ["library.Book:frozen"] (by decide) "-s" (by decide),
    (hexact.2 "ls" ["-d", "main"] [] (by decide)).2.2 ["library.Book:frozen"] (by decide) ["-s", "--config=x"]
      (by decide)⟩

/-- A file whose name begins like the option is not the same file behind the sign of equality. -/
theorem config_spellings_differ :
    Request.ofWords ["ls", "--config=--config=x"] = .ok (.perform .list { config := "x" }) ∧
      Request.ofWords ["ls", "--config", "--config=x"] = .ok (.perform .list { config := "--config=x" }) := by
  decide +kernel

end DeclaredTriggers.Command
