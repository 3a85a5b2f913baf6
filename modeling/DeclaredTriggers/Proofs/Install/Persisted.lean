import DeclaredTriggers.Install.Persisted
import DeclaredTriggers.Proofs.Json.RoundTrip
import Mathlib.Logic.Relation

/-!
# Persisted triggers read back

What a document says hangs on which members it has and not on where they stand. The document of a compiled
trigger has one member for each text that is set (`memberOf`), and looking up its names gives the trigger back.
Nothing else is asked of a document but what these names find, and of the `sql` object that all its values are
sound and none goes too deep, known or not. So a document may be written anew in many ways (`Respelled`):

> `CompiledTrigger.ofJson_toJson_respelled`: a compiled trigger is read back from its text, and from every other
> text whose document is its own written anew.
>
> `CompiledTrigger.ofJson_refuses_unknown`: a member of the `sql` object that has no meaning still has to have a
> value that can be held.
-/

namespace DeclaredTriggers

open Json (isSound membersSound depthOfMembers)

namespace CompiledTrigger

/-! ## Members that are texts -/

/-- A text that may be missing, as a member. -/
def memberOf (field : String × Option String) : Option (Option String × Json) :=
  field.2.map fun text => (some field.1, .text (some text))

section fields

variable {l : List (String × Option String)} {name : String}

theorem filter_memberOf_of_not_mem (h : name ∉ l.map Prod.fst) :
    (l.filterMap memberOf).filter (·.1 = some name) = [] := by
  rw [List.filter_eq_nil_iff]
  intro m hm
  obtain ⟨⟨other, value⟩, hmem, hmember⟩ := List.mem_filterMap.1 hm
  obtain ⟨text, -, rfl⟩ := Option.map_eq_some_iff.1 hmember
  simp only [Option.some.injEq, decide_eq_true_eq]
  rintro rfl
  exact h (List.mem_map_of_mem (f := Prod.fst) hmem)

/-- Of members with different names, one name finds one member if it is set. -/
theorem filter_memberOf (hl : (l.map Prod.fst).Nodup) {value : Option String} (h : (name, value) ∈ l) :
    (l.filterMap memberOf).filter (·.1 = some name) = (memberOf (name, value)).toList := by
  induction l with
  | nil => cases h
  | cons field l ih =>
    obtain ⟨hfresh, hrest⟩ := List.nodup_cons.1 hl
    rw [List.filterMap_cons]
    rcases List.mem_cons.1 h with rfl | hmem
    · have hnone := filter_memberOf_of_not_mem hfresh
      cases value with
      | none => exact hnone
      | some text =>
        show ((some name, Json.text (some text)) :: l.filterMap memberOf).filter _ = _
        rw [List.filter_cons_of_pos (by simp), hnone]
        rfl
    · have hname : field.1 ≠ name := by
        rintro rfl
        exact hfresh (List.mem_map.2 ⟨_, hmem, rfl⟩)
      obtain ⟨other, value'⟩ := field
      cases value' with
      | none => exact ih hrest hmem
      | some text =>
        show ((some other, Json.text (some text)) :: l.filterMap memberOf).filter _ = _
        rw [List.filter_cons_of_neg (by simpa using hname)]
        exact ih hrest hmem

theorem member?_memberOf (hl : (l.map Prod.fst).Nodup) {value : Option String} (h : (name, value) ∈ l) :
    member? (l.filterMap memberOf) name = some (value.map fun text => .text (some text)) := by
  unfold member?
  rw [filter_memberOf hl h]
  cases value <;> rfl

theorem requiredText?_memberOf (hl : (l.map Prod.fst).Nodup) {text : String} (h : (name, some text) ∈ l) :
    requiredText? (l.filterMap memberOf) name = some text := by
  unfold requiredText?
  rw [member?_memberOf hl h]
  rfl

theorem optionalText?_memberOf (hl : (l.map Prod.fst).Nodup) {value : Option String} (h : (name, value) ∈ l) :
    optionalText? (l.filterMap memberOf) name = some value := by
  unfold optionalText?
  rw [member?_memberOf hl h]
  cases value <;> rfl

/-- Members that are texts are sound, and go no deeper. -/
theorem membersTextual_memberOf (l : List (String × Option String)) :
    Json.membersTextual (l.filterMap memberOf) ∧ membersSound (l.filterMap memberOf) ∧
      depthOfMembers (l.filterMap memberOf) = 0 := by
  induction l with
  | nil => exact ⟨rfl, rfl, rfl⟩
  | cons field l ih =>
    obtain ⟨name, value⟩ := field
    cases value with
    | none => exact ih
    | some text =>
      obtain ⟨htextual, hsound, hdepth⟩ := ih
      exact ⟨htextual, hsound, (Nat.zero_max _).trans hdepth⟩

end fields

/-! ## The document of a compiled trigger -/

/-- What the `sql` object of a document says, with what is not set. -/
def fields (c : CompiledTrigger) : List (String × Option String) :=
  ("version", some c.sql.version.name) :: (c.sql.params.named ++ [("hash", some c.sql.hash)])

theorem sqlMembers_eq (c : CompiledTrigger) : c.sqlMembers = c.fields.filterMap memberOf := by
  unfold fields
  rw [List.filterMap_cons, List.filterMap_append]
  rfl

theorem nodup_fields (c : CompiledTrigger) : (c.fields.map Prod.fst).Nodup := by
  show ("version" :: (InstallParams.allNames ++ ["hash"])).Nodup
  decide

theorem named_subset_fields (c : CompiledTrigger) : ∀ field ∈ c.sql.params.named, field ∈ c.fields :=
  fun _ h => List.mem_cons_of_mem _ (List.mem_append_left _ h)

theorem params?_sqlMembers (c : CompiledTrigger) : params? c.sqlMembers = some c.sql.params := by
  rw [sqlMembers_eq]
  have hrequired : ∀ field ∈ c.sql.params.named, ∀ text, field.2 = some text →
      requiredText? (c.fields.filterMap memberOf) field.1 = some text := by
    rintro ⟨name, value⟩ hmem text rfl
    exact requiredText?_memberOf c.nodup_fields (c.named_subset_fields _ hmem)
  have hoptional : ∀ field ∈ c.sql.params.named,
      optionalText? (c.fields.filterMap memberOf) field.1 = some field.2 :=
    fun field hmem => optionalText?_memberOf c.nodup_fields (c.named_subset_fields field hmem)
  simp only [InstallParams.named, List.forall_mem_cons, Option.some.injEq, forall_eq'] at hrequired hoptional
  simp only [params?, hrequired, hoptional]
  rfl

theorem version?_sqlMembers (c : CompiledTrigger) : version? c.sqlMembers = some c.sql.version := by
  unfold version?
  rw [sqlMembers_eq, member?_memberOf c.nodup_fields List.mem_cons_self]
  cases c.sql.version
  rfl

theorem installSql?_sqlMembers (c : CompiledTrigger) : installSql? (.object c.sqlMembers) = some c.sql := by
  have hhash : requiredText? c.sqlMembers "hash" = some c.sql.hash := by
    rw [sqlMembers_eq]
    exact requiredText?_memberOf c.nodup_fields
      (List.mem_cons_of_mem _ (List.mem_append_right _ (List.mem_singleton_self _)))
  obtain ⟨-, hsound, hdepth⟩ := membersTextual_memberOf c.fields
  rw [← sqlMembers_eq] at hsound hdepth
  simp only [installSql?, version?_sqlMembers, params?_sqlMembers, hhash, hsound, hdepth]
  rfl

theorem ofDocument?_json (c : CompiledTrigger) : ofDocument? c.json = some c := by
  show (installSql? (.object c.sqlMembers) >>= fun sql => _) = _
  rw [installSql?_sqlMembers]
  rfl

theorem isTextual_json (c : CompiledTrigger) : c.json.isTextual := by
  have hsql : Json.membersTextual c.sqlMembers := by
    rw [sqlMembers_eq]
    exact (membersTextual_memberOf c.fields).1
  simp only [json, Json.isTextual, Json.membersTextual, hsql]
  rfl

/-! ## Other ways to write a document -/

/-- The names that the `sql` object of a document gives a meaning. -/
def sqlNames : List String := "version" :: "hash" :: InstallParams.allNames

/-- The names of the parameters that may be missing. -/
def optionalNames : List String := InstallParams.allNames.filter (· ∉ InstallParams.requiredNames)

/-- A way to write the members of the `sql` object anew: in another order, with one more that has no meaning and
a value that is sound and does not go too deep, with one more that is null for a parameter that is not set, or
with the version that goes without saying. -/
inductive SqlRespelled : List (Option String × Json) → List (Option String × Json) → Prop where
  | reordered {ms ms' : List (Option String × Json)} (h : ms.Perm ms') : SqlRespelled ms ms'
  | unknown {ms : List (Option String × Json)} {name : String} {v : Json} (hname : name ∉ sqlNames)
      (hsound : v.isSound) (hdepth : v.depth + 2 ≤ maxDepth) : SqlRespelled ms ((some name, v) :: ms)
  | null {ms : List (Option String × Json)} {name : String} (hname : name ∈ optionalNames)
      (habsent : ∀ m ∈ ms, m.1 ≠ some name) : SqlRespelled ms ((some name, .null) :: ms)
  | version {ms : List (Option String × Json)} (habsent : ∀ m ∈ ms, m.1 ≠ some "version") :
      SqlRespelled ms ((some "version", .text (some "V1")) :: ms)

/-- A way to write a document anew: with its members in another order, with one more that has no meaning,
whatever its value, or with another `sql` object. -/
inductive Respelled : Json → Json → Prop where
  | reordered {ms ms' : List (Option String × Json)} (h : ms.Perm ms') : Respelled (.object ms) (.object ms')
  | unknown {ms : List (Option String × Json)} {name : String} {v : Json} (hname : name ≠ "name")
      (hsql : name ≠ "sql") : Respelled (.object ms) (.object ((some name, v) :: ms))
  | sql {ms sql sql' : List (Option String × Json)} (h : SqlRespelled sql sql') :
      Respelled (.object ((some "sql", .object sql) :: ms)) (.object ((some "sql", .object sql') :: ms))
  | sqlOfPair {name : Json} {sql sql' : List (Option String × Json)} (h : SqlRespelled sql sql') :
      Respelled (.array [name, .object sql]) (.array [name, .object sql'])

section lookup

variable {ms ms' : List (Option String × Json)}

/-- What a name finds does not hang on the order of the members. -/
theorem member?_of_perm (h : ms.Perm ms') (name : String) : member? ms name = member? ms' name := by
  have hfilter := h.filter (·.1 = some name)
  unfold member?
  split
  next heq =>
    rw [heq] at hfilter
    rw [List.nil_perm.1 hfilter]
  next heq =>
    rw [heq] at hfilter
    rw [List.perm_singleton.1 hfilter.symm]
  next hnil hone =>
    split
    next heq =>
      rw [heq] at hfilter
      exact absurd (List.perm_nil.1 hfilter) hnil
    next v heq =>
      rw [heq] at hfilter
      exact absurd (List.perm_singleton.1 hfilter) (hone _ v)
    next => rfl

theorem member?_cons_of_ne {name other : String} (h : name ≠ other) (v : Json) :
    member? ((some other, v) :: ms) name = member? ms name := by
  unfold member?
  rw [List.filter_cons_of_neg (by simpa using Ne.symm h)]

/-- A member is found by its name unless there is another one of that name. -/
theorem member?_cons_self (name : String) (v : Json) : member? ((some name, v) :: ms) name =
    if ms.filter (·.1 = some name) = [] then some (some v) else none := by
  unfold member?
  rw [List.filter_cons_of_pos (by simp)]
  split
  next heq => cases heq
  next heq =>
    obtain ⟨hhead, htail⟩ := List.cons.inj heq
    rw [if_pos htail]
    exact congrArg (some ∘ some) (Prod.mk.inj hhead).2.symm
  next hone =>
    rw [if_neg fun htail => hone _ _ (by rw [htail])]

theorem member?_of_absent {name : String} (h : ∀ m ∈ ms, m.1 ≠ some name) : member? ms name = some none := by
  unfold member?
  rw [List.filter_eq_nil_iff.2 (by simpa using h)]

theorem member?_cons_of_absent {name : String} (h : ∀ m ∈ ms, m.1 ≠ some name) (v : Json) :
    member? ((some name, v) :: ms) name = some (some v) := by
  rw [member?_cons_self, if_pos (List.filter_eq_nil_iff.2 (by simpa using h))]

theorem membersSound_eq_all (ms : List (Option String × Json)) :
    membersSound ms = ms.all fun m => m.1.isSome && m.2.isSound := by
  induction ms with
  | nil => rfl
  | cons m ms ih => simp only [membersSound, List.all_cons, ih]

theorem depthOfMembers_le_iff {n : Nat} : depthOfMembers ms ≤ n ↔ ∀ m ∈ ms, m.2.depth ≤ n := by
  induction ms with
  | nil => simp [depthOfMembers]
  | cons m ms ih => simp only [depthOfMembers, Nat.max_le, ih, List.forall_mem_cons]

/-- Members that are looked up alike, and are as sound and go as deep as allowed, spell the same statements. -/
theorem installSql?_congr (hversion : version? ms = version? ms')
    (hrequired : ∀ name ∈ "hash" :: InstallParams.requiredNames, requiredText? ms name = requiredText? ms' name)
    (hoptional : ∀ name ∈ optionalNames, optionalText? ms name = optionalText? ms' name)
    (hsound : membersSound ms = membersSound ms')
    (hdepth : depthOfMembers ms + 2 ≤ maxDepth ↔ depthOfMembers ms' + 2 ≤ maxDepth) :
    installSql? (.object ms) = installSql? (.object ms') := by
  have hparams : params? ms = params? ms' := by
    have hnames : optionalNames = ["ignore_func_name", "declare", "constraint", "timing", "referencing", "level",
      "condition", "execute"] := by decide
    rw [hnames] at hoptional
    simp only [InstallParams.requiredNames, List.forall_mem_cons] at hrequired hoptional
    unfold params?
    simp only [hrequired, hoptional]
  have hhash := hrequired "hash" List.mem_cons_self
  unfold installSql?
  simp only [hversion, hparams, hhash, hsound, hdepth]

/-- One more member changes nothing if what finds it makes the same of it as of nothing. -/
theorem installSql?_cons {name : String} {v : Json} (hsound : v.isSound) (hdepth : v.depth + 2 ≤ maxDepth)
    (hversion : name = "version" → version? ms = version? ((some name, v) :: ms))
    (hrequired : name ∉ "hash" :: InstallParams.requiredNames)
    (hoptional : name ∈ optionalNames → optionalText? ms name = optionalText? ((some name, v) :: ms) name) :
    installSql? (.object ms) = installSql? (.object ((some name, v) :: ms)) := by
  have hmember : ∀ known, known ≠ name → member? ms known = member? ((some name, v) :: ms) known :=
    fun known hne => (member?_cons_of_ne hne v).symm
  refine installSql?_congr ?_ (fun known hknown => ?_) (fun known hknown => ?_) ?_ ?_
  · by_cases hname : name = "version"
    · exact hversion hname
    · unfold version?
      rw [hmember "version" (Ne.symm hname)]
  · unfold requiredText?
    rw [hmember known fun heq => hrequired (heq ▸ hknown)]
  · by_cases hname : known = name
    · subst hname
      exact hoptional hknown
    · unfold optionalText?
      rw [hmember known hname]
  · simp [membersSound, hsound]
  · simp only [depthOfMembers]
    omega

theorem installSql?_of_respelled (h : SqlRespelled ms ms') :
    installSql? (.object ms) = installSql? (.object ms') := by
  cases h with
  | reordered h =>
    have hmember : ∀ name, member? ms name = member? ms' name := member?_of_perm h
    refine installSql?_congr ?_ (fun name _ => ?_) (fun name _ => ?_) ?_ ?_
    · unfold version?
      rw [hmember]
    · unfold requiredText?
      rw [hmember]
    · unfold optionalText?
      rw [hmember]
    · rw [membersSound_eq_all, membersSound_eq_all]
      exact h.all_eq
    · rw [← Nat.le_sub_iff_add_le (by decide), ← Nat.le_sub_iff_add_le (by decide), depthOfMembers_le_iff,
        depthOfMembers_le_iff]
      exact forall_congr' fun m => imp_congr_left h.mem_iff
  | unknown hname hsound hdepth =>
    have hknown : ∀ known ∈ optionalNames ++ "hash" :: InstallParams.requiredNames, known ∈ sqlNames := by decide
    exact installSql?_cons hsound hdepth (fun heq => absurd (heq ▸ by decide) hname)
      (fun hmem => hname (hknown _ (List.mem_append_right _ hmem)))
      fun hmem => absurd (hknown _ (List.mem_append_left _ hmem)) hname
  | null hname habsent =>
    have hrequired : ∀ known ∈ optionalNames, known ∉ "hash" :: InstallParams.requiredNames := by decide
    refine installSql?_cons rfl (by decide) (fun heq => absurd (heq ▸ hname) (by decide)) (hrequired _ hname)
      fun _ => ?_
    unfold optionalText?
    rw [member?_of_absent habsent, member?_cons_of_absent habsent]
  | version habsent =>
    refine installSql?_cons rfl (by decide) (fun _ => ?_) (by decide) fun hmem => absurd hmem (by decide)
    unfold version?
    rw [member?_of_absent habsent, member?_cons_of_absent habsent]
    rfl

/-- What a document spells, said by what is looked up in it. -/
theorem ofDocument?_object (ms : List (Option String × Json)) :
    ofDocument? (.object ms) = (requiredText? ms "name").bind fun name =>
      ((member? ms "sql").bind fun found => found.bind installSql?).bind fun sql =>
        if ms.all (·.1.isSome) then some ⟨name, sql⟩ else none := by
  simp only [ofDocument?, Option.bind_eq_bind, Option.bind_assoc]
  rfl

end lookup

/-- However a document is written anew, it is read as the same trigger, or as none as before. -/
theorem ofDocument?_of_respelled {d d' : Json} (h : Respelled d d') : ofDocument? d = ofDocument? d' := by
  cases h with
  | reordered h =>
    rw [ofDocument?_object, ofDocument?_object]
    unfold requiredText?
    simp only [member?_of_perm h, h.all_eq]
  | unknown hname hsql =>
    rw [ofDocument?_object, ofDocument?_object]
    unfold requiredText?
    simp only [member?_cons_of_ne hname.symm, member?_cons_of_ne hsql.symm, List.all_cons, Option.isSome_some,
      Bool.true_and]
  | @sql ms sql sql' h =>
    have hfound : ((member? ((some "sql", .object sql) :: ms) "sql").bind fun found => found.bind installSql?) =
        (member? ((some "sql", .object sql') :: ms) "sql").bind fun found => found.bind installSql? := by
      rw [member?_cons_self, member?_cons_self]
      split
      next => exact installSql?_of_respelled h
      next => rfl
    have hname : ∀ v, member? ((some "sql", v) :: ms) "name" = member? ms "name" :=
      member?_cons_of_ne (by decide)
    rw [ofDocument?_object, ofDocument?_object, hfound]
    unfold requiredText?
    rw [hname, hname]
    rfl
  | @sqlOfPair name sql sql' h =>
    -- An array of another first item is no document, whatever the second one is.
    cases name with
    | text s =>
      cases s with
      | some name =>
        show (installSql? (.object sql) >>= _) = (installSql? (.object sql') >>= _)
        rw [installSql?_of_respelled h]
      | none => rfl
    | null | bool _ | number _ | array _ | object _ => rfl

/-- Documents that are written anew any number of times, in either direction. -/
theorem ofDocument?_of_eqvGen {d d' : Json} (h : Relation.EqvGen Respelled d d') :
    ofDocument? d = ofDocument? d' := by
  induction h with
  | rel d d' h => exact ofDocument?_of_respelled h
  | refl d => rfl
  | symm d d' _ ih => exact ih.symm
  | trans d d' d'' _ _ ih ih' => exact ih.trans ih'

/-! ## Reading back -/

theorem parse?_toJson (c : CompiledTrigger) : Json.parse? c.toJson = some c.json :=
  Json.parse?_print c.isTextual_json

/-- For every compiled trigger: the text of its document is read back as that trigger. And for all texts: where
the one spells a document that is the other's written anew, they are read alike. -/
theorem ofJson_toJson_respelled (c : CompiledTrigger) :
    ofJson c.toJson = .ok c ∧ Json.parse? c.toJson = some c.json ∧
      ∀ text text' d d', Json.parse? text = some d → Json.parse? text' = some d' →
        Relation.EqvGen Respelled d d' → ofJson text' = ofJson text := by
  refine ⟨?_, c.parse?_toJson, fun text text' d d' htext htext' h => ?_⟩
  · unfold ofJson
    rw [c.parse?_toJson, Option.bind_some, c.ofDocument?_json]
    rfl
  · unfold ofJson
    rw [htext, htext', Option.bind_some, Option.bind_some, ofDocument?_of_eqvGen h]

/-- A trigger whose texts hold what has to be escaped. -/
def specimen : CompiledTrigger :=
  ⟨"keep \"books\"", .v1,
    { pgid := "pgtrigger_keep_books_1a2b3", func := "RAISE EXCEPTION 'C:\\ \n\t\x01 😀';", table := "book",
      moment := "BEFORE", operation := "DELETE", level := some "ROW" }, "feed"⟩

/-- The trigger's document with its `sql` object in front and other members in that. -/
def specimenWith (sql : List (Option String × Json)) : Json :=
  .object [(some "sql", .object sql), (some "name", .text (some specimen.name))]

/-- Members of an `sql` object that say nothing: one has no meaning, the other says what goes without saying. -/
def remarks : List (Option String × Json) := [
  (some "note", .array [.bool true, .object [(some "level", .null)]]), (some "condition", .null)]

/-- The trigger's document with the members of both objects in another order, without the version, with a null
for the condition that is not set and with members that have no meaning. -/
def specimenAnew : Json :=
  .object [(some "sql", .object (remarks ++ specimen.sqlMembers.tail.reverse)), (some "tool", .null),
    (some "name", .text (some specimen.name))]

theorem respelled_specimenAnew : Relation.EqvGen Respelled specimen.json specimenAnew := by
  have hfront : Respelled specimen.json (specimenWith specimen.sqlMembers) := .reordered (.swap ..)
  have hversion : Respelled (specimenWith specimen.sqlMembers.tail) (specimenWith specimen.sqlMembers) :=
    .sql (.version (by decide))
  have hreverse : Respelled (specimenWith specimen.sqlMembers.tail)
      (specimenWith specimen.sqlMembers.tail.reverse) := .sql (.reordered (List.reverse_perm _).symm)
  have hnull : Respelled (specimenWith specimen.sqlMembers.tail.reverse)
      (specimenWith (remarks.tail ++ specimen.sqlMembers.tail.reverse)) := .sql (.null (by decide) (by decide))
  have hnote : Respelled (specimenWith (remarks.tail ++ specimen.sqlMembers.tail.reverse))
      (specimenWith (remarks ++ specimen.sqlMembers.tail.reverse)) :=
    .sql (.unknown (by decide) (by decide) (by decide))
  have htool : Respelled (specimenWith (remarks ++ specimen.sqlMembers.tail.reverse))
      (.object [(some "tool", .null), (some "sql", .object (remarks ++ specimen.sqlMembers.tail.reverse)),
        (some "name", .text (some specimen.name))]) := .unknown (by decide) (by decide)
  refine .trans _ _ _ (.rel _ _ hfront) (.trans _ _ _ (.symm _ _ (.rel _ _ hversion)) ?_)
  refine .trans _ _ _ (.rel _ _ hreverse) (.trans _ _ _ (.rel _ _ hnull) ?_)
  refine .trans _ _ _ (.rel _ _ hnote) (.trans _ _ _ (.rel _ _ htool) ?_)
  exact .rel _ _ (.reordered (.swap ..))

/-- Texts with quotes, backslashes, control characters and characters beyond the first plane are read back, and
so is the document written anew. -/
theorem ofJson_toJson_respelled_specimen :
    ofJson specimen.toJson = .ok specimen ∧ ofJson (String.ofList specimenAnew.print) = .ok specimen := by
  obtain ⟨hread, hparse, hanew⟩ := ofJson_toJson_respelled specimen
  exact ⟨hread, (hanew _ _ _ _ hparse (Json.parse?_print (by decide)) respelled_specimenAnew).trans hread⟩

/-- A trigger with nothing that could be left out. -/
def least : CompiledTrigger :=
  ⟨"a", .v1, { pgid := "b", func := "c", table := "d", moment := "e", operation := "f" }, "g"⟩

/-- The text of that trigger's document, with more at the end of the `sql` object. -/
def leastText (more : String) : String :=
  "\x7b\"name\":\"a\",\"sql\":\x7b\"version\":\"V1\",\"pgid\":\"b\",\"func\":\"c\"," ++
    "\"table\":\"d\",\"when\":\"e\",\"operation\":\"f\",\"hash\":\"g\"" ++ more ++ "\x7d\x7d"

/-- A number that is out of range, under a name that has no meaning, keeps a document from being read. -/
theorem ofJson_refuses_unknown :
    ofJson (leastText "") = .ok least ∧ ofJson (leastText ",\"x\":1e999") = .error .invalidCompiled := by
  have hleast : (Json.parse? (leastText "")).bind ofDocument? = some least := by decide +kernel
  have hmore : (Json.parse? (leastText ",\"x\":1e999")).bind ofDocument? = none := by decide +kernel
  unfold ofJson
  rw [hleast, hmore]
  exact ⟨rfl, rfl⟩

end CompiledTrigger

end DeclaredTriggers
