import DeclaredTriggers.Proofs.Database.Catalog
import DeclaredTriggers.Proofs.Reconcile.Bookkeeping
import DeclaredTriggers.Proofs.Reconcile.Untouched
import Mathlib.Data.List.TakeDrop

/-!
# Alterations that get through

A server may refuse an alteration for as long as some triggers are there, and name one of them each time
(`Guarding`). What else is known of it is no more than a scene: which triggers are there, and which were at
each savepoint. A refusal that names a trigger is read as naming it, so every round of the alteration takes
away one that is in the way, and when the last is gone the alteration succeeds.

> `triggerInDetail?_dependency`: the trigger that is read off a detail is the one that was put there.
>
> `Clears.unblocks`: what is in the way is dropped, all of it and nothing else.
>
> `Alters.unblocks`: the alteration succeeds, and every trigger is there as before.
-/

namespace DeclaredTriggers

open Act (result)
open Channel
open Text (splitFirst? strip?)

/-! ## Details that name a trigger -/

/-- What a database adds to its refusal of an alteration: the trigger in the way, perhaps in quotes, its
table, and what it depends on. -/
def dependency (quoted : Bool) (pgid table column : String) : String :=
  "trigger " ++ (if quoted then "\"" ++ pgid ++ "\"" else pgid) ++ " on table " ++ table ++
    " depends on column " ++ column

/-- The first occurrence of a text is not behind one that is known. -/
theorem splitFirst?_append (sep a b : List Char) :
    ∃ before after, splitFirst? sep (a ++ (sep ++ b)) = some (before, after) ∧ before <+: a := by
  induction a with
  | nil =>
    rw [List.nil_append]
    cases hs : sep ++ b with
    | nil =>
      obtain ⟨rfl, rfl⟩ := List.append_eq_nil_iff.1 hs
      exact ⟨[], [], rfl, List.nil_prefix⟩
    | cons c s =>
      have hstrip : strip? sep (c :: s) = some b := by rw [← hs, Text.strip?_append]
      refine ⟨[], b, ?_, List.nil_prefix⟩
      unfold splitFirst?
      rw [hstrip]
  | cons c a ih =>
    rw [List.cons_append]
    unfold splitFirst?
    cases strip? sep (c :: (a ++ (sep ++ b))) with
    | some rest => exact ⟨[], rest, rfl, List.nil_prefix⟩
    | none =>
      obtain ⟨before, after, hsplit, hleads⟩ := ih
      refine ⟨c :: before, after, ?_, List.cons_prefix_cons.2 ⟨rfl, hleads⟩⟩
      rw [hsplit]
      rfl

/-- What follows the trigger's name says on what it depends. -/
theorem namesDependency_dependency {table : String} (hne : table ≠ "") (hline : '\n' ∉ table.toList)
    (column : String) : namesDependency
      (" on table ".toList ++ (table.toList ++ (" depends on column".toList ++ ' ' :: column.toList))) := by
  cases hc : table.toList with
  | nil => exact absurd hc (by simpa using hne)
  | cons c rest =>
    rw [hc] at hline
    obtain ⟨before, after, hsplit, hleads⟩ :=
      splitFirst?_append " depends on column".toList rest (' ' :: column.toList)
    unfold namesDependency
    rw [Text.strip?_append]
    simp only [List.cons_append]
    rw [hsplit]
    have hall : '\n' ∉ c :: before := fun h => hline
      ((List.mem_cons.1 h).elim (· ▸ List.mem_cons_self) fun h => List.mem_cons_of_mem _ (hleads.subset h))
    simpa using hall

/-- A word that no quote and no blank interrupts is read up to its end. -/
theorem span_word {w : List Char} (h : ∀ c ∈ w, (c ≠ '"' && !Text.isBlank c) = true) {c : Char}
    (hc : (c ≠ '"' && !Text.isBlank c) = false) (s : List Char) :
    (w ++ c :: s).span (fun c => c ≠ '"' && !Text.isBlank c) = (w, c :: s) := by
  rw [List.span_eq_takeWhile_dropWhile, List.takeWhile_append_of_pos h, List.dropWhile_append_of_pos h,
    List.takeWhile_cons_of_neg (by rw [hc]; exact Bool.false_ne_true),
    List.dropWhile_cons_of_neg (by rw [hc]; exact Bool.false_ne_true), List.append_nil]

/-- A detail is read as naming the trigger that it names. -/
theorem triggerInDetail?_dependency (quoted : Bool) (x : Entry) {table : String} (hne : table ≠ "")
    (hline : '\n' ∉ table.toList) (column : String) :
    triggerInDetail? (dependency quoted x.pgid table column) = some x.pgid := by
  have hword : ∀ c ∈ x.pgid.toList, (c ≠ '"' && !Text.isBlank c) = true := by
    intro c hc
    have hall : ∀ n < 128, Definition.isNameCharacter (Char.ofNat n) →
        (Char.ofNat n ≠ '"' && !Text.isBlank (Char.ofNat n)) = true := by decide
    have hname := x.isNameCharacter_of_mem_pgid hc
    exact forall_ascii (P := fun c => Definition.isNameCharacter c → (c ≠ '"' && !Text.isBlank c) = true)
      hall c (Definition.toNat_lt_of_isNameCharacter hname) hname
  obtain ⟨more, hpgid⟩ : ∃ more, x.pgid.toList = 'p' :: more := by
    obtain ⟨rest, hrest⟩ := x.pgid_eq_append
    exact ⟨_, hrest⟩
  have hafter := namesDependency_dependency hne hline column
  generalize hrest : table.toList ++ (" depends on column".toList ++ ' ' :: column.toList) = rest at hafter
  have hdetail : (dependency quoted x.pgid table column).toList = "trigger ".toList ++
      ((if quoted then ['"'] else []) ++ (x.pgid.toList ++ ((if quoted then ['"'] else []) ++
        (" on table ".toList ++ rest)))) := by
    have hcolumn : " depends on column ".toList = " depends on column".toList ++ [' '] := by decide
    unfold dependency
    rw [← hrest]
    cases quoted <;> simp [String.toList_append, hcolumn]
  have hlead : withoutQuote ((if quoted then ['"'] else []) ++ (x.pgid.toList ++
      ((if quoted then ['"'] else []) ++ (" on table ".toList ++ rest)))) =
        x.pgid.toList ++ ((if quoted then ['"'] else []) ++ (" on table ".toList ++ rest)) := by
    rw [hpgid]
    cases quoted <;> rfl
  have hspan : (x.pgid.toList ++ ((if quoted then ['"'] else []) ++ (" on table ".toList ++ rest))).span
      (fun c => c ≠ '"' && !Text.isBlank c) =
        (x.pgid.toList, (if quoted then ['"'] else []) ++ (" on table ".toList ++ rest)) := by
    cases quoted with
    | true => exact span_word hword rfl _
    | false => exact span_word (c := ' ') hword rfl _
  have hbehind : withoutQuote ((if quoted then ['"'] else []) ++ (" on table ".toList ++ rest)) =
      " on table ".toList ++ rest := by cases quoted <;> rfl
  unfold triggerInDetail?
  rw [hdetail, Text.strip?_append]
  simp only [hlead, hspan, hbehind, hafter]
  have hempty : x.pgid.toList.isEmpty = false := by
    rw [hpgid]
    rfl
  rw [hempty, String.ofList_toList]
  rfl

/-- A refusal that says which trigger is in the way. -/
def Refusal.Blames (refusal : Refusal) (x : Entry) : Prop :=
  refusal.code = "0A000" ∧ Text.includes refusal.message "used in a trigger definition" ∧
    ∃ quoted table column, table ≠ "" ∧ '\n' ∉ table.toList ∧
      refusal.detail = some (dependency quoted x.pgid table column)

theorem Refusal.Blames.blocker? {refusal : Refusal} {x : Entry} (h : refusal.Blames x) :
    (Error.query (.refused refusal)).blocker? = some x.pgid := by
  obtain ⟨hcode, hmessage, quoted, table, column, hne, hline, hdetail⟩ := h
  have hused : (Error.query (.refused refusal)).isColumnUsedInTrigger = true := by
    show (decide (refusal.code = "0A000") && _) = true
    rw [hcode, hmessage]
    rfl
  have hblame : (Error.query (.refused refusal)).detail? = some (dependency quoted x.pgid table column) :=
    hdetail
  unfold Error.blocker?
  rw [if_pos hused, hblame]
  exact triggerInDetail?_dependency quoted x hne hline column

/-! ## Servers that guard a column -/

/-- What matters of a database whose triggers may stand in the way of an alteration. Once a transaction has
failed, what stands is not looked at. -/
structure Scene where
  phase : Phase
  /-- The triggers that are there, by their identifiers. -/
  standing : List String
  /-- The savepoints by their numbers, the newest first, and what stood at each. -/
  savepoints : List (Nat × List String) := []

namespace Scene

/-- The scene with one more savepoint. -/
def saved (S : Scene) (n : Nat) : Scene := { S with savepoints := (n, S.standing) :: S.savepoints }

/-- The scene without a trigger. -/
def lacking (S : Scene) (pgid : String) : Scene := { S with standing := S.standing.filter (· ≠ pgid) }

/-- The scene with a trigger. -/
def having (S : Scene) (pgid : String) : Scene := { S with standing := pgid :: S.standing }

end Scene

variable {κ : Type} [Channel κ]

/-- A batch is done, and afterwards the channel shows a scene. -/
def Does (shows : κ → Scene → Prop) (text : String) (k : κ) (S : Scene) : Prop :=
  ∃ k', result (batch text) k = (.ok (), k') ∧ shows k' S

/-- The transactions of what a channel shows: statements that control them do what they say. -/
structure Transacts (shows : κ → Scene → Prop) : Prop where
  withJournal : ∀ {k S}, shows k S → ∀ j, shows (Channel.withJournal j k) S
  begins : ∀ {k S}, shows k S → S.phase = .idle → Does shows "BEGIN" k { S with phase := .inTransaction }
  commits : ∀ {k S}, shows k S → S.phase = .inTransaction →
    Does shows "COMMIT" k { S with phase := .idle, savepoints := [] }
  saves : ∀ {k S}, shows k S → S.phase = .inTransaction → ∀ n,
    Does shows ("SAVEPOINT " ++ savepointName n) k (S.saved n)
  releases : ∀ {k S n ids older}, shows k S → S.phase = .inTransaction →
    S.savepoints = (n, ids) :: older →
      Does shows ("RELEASE SAVEPOINT " ++ savepointName n) k { S with savepoints := older }
  leadsBack : ∀ {k S n ids older}, shows k S → S.phase ≠ .idle → S.savepoints = (n, ids) :: older →
    Does shows ("ROLLBACK TO SAVEPOINT " ++ savepointName n) k
      { S with phase := .inTransaction, standing := ids }

/-- The trigger of one of some entries is there. -/
def Blocked (guards : Entry → Prop) (ids : List String) : Prop := ∃ x, guards x ∧ x.pgid ∈ ids

/-- A server that refuses an alteration exactly while the trigger of an entry that guards the column is
there, and then blames such a trigger. It does everything else that an alteration sends. -/
structure Guarding (shows : κ → Scene → Prop) (guards : Entry → Prop) (r : Registry) (s : Settings)
    (sql : String) : Prop extends Transacts shows where
  registered : ∀ {x}, guards x → x ∈ r.entries
  written : ∀ {x}, guards x → ∃ text, x.trigger.installSql x.entity s = .ok text
  refuses : ∀ {k S}, shows k S → S.phase = .inTransaction → Blocked guards S.standing →
    ∃ x refusal k', guards x ∧ x.pgid ∈ S.standing ∧ refusal.Blames x ∧
      result (batch sql) k = (.error (.query (.refused refusal)), k') ∧
        shows k' { S with phase := .failed }
  alters : ∀ {k S}, shows k S → S.phase = .inTransaction → ¬ Blocked guards S.standing →
    Does shows sql k S
  drops : ∀ {k S x}, shows k S → S.phase = .inTransaction → guards x →
    Does shows (dropTriggerSql x.pgid x.table) k (S.lacking x.pgid)
  installs : ∀ {k S x text}, shows k S → S.phase = .inTransaction → guards x →
    x.trigger.installSql x.entity s = .ok text → Does shows text k (S.having x.pgid)

/-- Inside a transaction, some triggers are there. -/
def Shown (shows : κ → Scene → Prop) (ids : List String) (k : κ) : Prop :=
  ∃ savepoints, shows k ⟨.inTransaction, ids, savepoints⟩

section

variable {shows : κ → Scene → Prop} {guards : Entry → Prop} {r : Registry} {s : Settings} {sql : String}
  {k k' : κ} {ids : List String}

/-- A savepoint is set under a number of its own. -/
theorem Transacts.saved (h : Transacts shows) (hk : Shown shows ids k) (text : String) :
    ∃ n k₁ older, shows k₁ ⟨.inTransaction, ids, (n, ids) :: older⟩ ∧ result (withSavepoint text) k =
      result (do
        match ← Act.attempt (batch text) with
        | .ok () => batch ("RELEASE SAVEPOINT " ++ savepointName n)
        | .error e =>
          match ← Act.attempt (batch ("ROLLBACK TO SAVEPOINT " ++ savepointName n)) with
          | .ok () => throw e
          | .error again =>
            notify (.savepointRollbackFailed again)
            throw e) k₁ := by
  obtain ⟨older, hk⟩ := hk
  obtain ⟨n, k₀, hfresh, hk₀⟩ : ∃ n k₀, result (freshSavepoint (κ := κ)) k = (.ok n, k₀) ∧
      shows k₀ ⟨.inTransaction, ids, older⟩ := ⟨_, _, rfl, h.withJournal hk _⟩
  obtain ⟨k₁, hsave, hk₁⟩ := h.saves hk₀ rfl n
  refine ⟨n, k₁, older, hk₁, ?_⟩
  unfold withSavepoint
  exact (Act.result_bind_ok hfresh _).trans (Act.result_bind_ok hsave _)

/-- A text that is done is done under a savepoint as well. -/
theorem Transacts.withSavepoint_does (h : Transacts shows) (hk : Shown shows ids k) {text : String}
    {ids' : List String} (htext : ∀ {k savepoints}, shows k ⟨.inTransaction, ids, savepoints⟩ →
      Does shows text k ⟨.inTransaction, ids', savepoints⟩) :
    ∃ k', result (withSavepoint text) k = (.ok (), k') ∧ Shown shows ids' k' := by
  obtain ⟨n, k₁, older, hk₁, hsaved⟩ := h.saved hk text
  obtain ⟨k₂, hdone, hk₂⟩ := htext hk₁
  obtain ⟨k₃, hrelease, hk₃⟩ := h.releases hk₂ rfl rfl
  refine ⟨k₃, ?_, older, hk₃⟩
  rw [hsaved, Act.result_bind_ok (Act.result_attempt hdone)]
  exact hrelease

namespace Guarding

/-- An attempt succeeds if nothing is in the way, and otherwise something is blamed that is. -/
theorem attempt (h : Guarding shows guards r s sql) (hk : Shown shows ids k) :
    (¬ Blocked guards ids ∧ ∃ k', result (withSavepoint sql) k = (.ok (), k') ∧ Shown shows ids k') ∨
      ∃ x e k', guards x ∧ x.pgid ∈ ids ∧ e.blocker? = some x.pgid ∧
        result (withSavepoint sql) k = (.error e, k') ∧ Shown shows ids k' := by
  by_cases hblocked : Blocked guards ids
  · obtain ⟨n, k₁, older, hk₁, hsaved⟩ := h.saved hk sql
    obtain ⟨x, refusal, k₂, hx, hstands, hblames, hrefused, hk₂⟩ := h.refuses hk₁ rfl hblocked
    obtain ⟨k₃, hback, hk₃⟩ := h.leadsBack hk₂ nofun rfl
    refine .inr ⟨x, _, k₃, hx, hstands, hblames.blocker?, ?_, (n, ids) :: older, hk₃⟩
    rw [hsaved, Act.result_bind_ok (Act.result_attempt hrefused)]
    exact Act.result_bind_ok (Act.result_attempt hback) _
  · exact .inl ⟨hblocked, h.withSavepoint_does hk fun hk => h.alters hk rfl hblocked⟩

/-- What is in the way gives way. -/
theorem giveWay (h : Guarding shows guards r s sql) (hk : Shown shows ids k) {x : Entry}
    (hx : guards x) : ∃ k', result (DeclaredTriggers.giveWay x) k = (.ok (), k') ∧
      Shown shows (ids.filter (· ≠ x.pgid)) k' := by
  obtain ⟨older, hk⟩ := hk
  have hnoted : Shown shows ids (noted (.giveWay x.pgid x.table) k) := ⟨older, h.withJournal hk _⟩
  rw [result_giveWay]
  exact h.withSavepoint_does hnoted fun hk => h.drops hk rfl hx

/-- What gave way is installed again. -/
theorem reinstall (h : Guarding shows guards r s sql) (hk : Shown shows ids k) {x : Entry}
    (hx : guards x) {text : String} (htext : x.trigger.installSql x.entity s = .ok text) :
    ∃ k', result (withSavepoint text) k = (.ok (), k') ∧ Shown shows (x.pgid :: ids) k' :=
  h.withSavepoint_does hk fun hk => h.installs hk rfl hx htext

end Guarding

/-! ## The way that gets free -/

theorem inTheWay?_of_blocker? {entries : List Entry} (hdistinct : (entries.map (·.pgid)).Nodup)
    {x : Entry} (hx : x ∈ entries) {e : Error} (h : e.blocker? = some x.pgid) :
    inTheWay? entries e = some x := by
  unfold inTheWay?
  rw [h, Option.bind_some]
  cases hfind : entries.find? (·.pgid = x.pgid) with
  | none => exact absurd (decide_eq_true rfl) (List.find?_eq_none.1 hfind x hx)
  | some y =>
    have heq : y.pgid = x.pgid := by simpa using List.find?_some hfind
    rw [List.inj_on_of_nodup_map hdistinct (List.mem_of_find?_eq_some hfind) hx heq]

/-- An attempt that fails finds the entry that is in the way. -/
theorem Guarding.inTheWay {entries : List Entry} {e : Error}
    (hguarding : Guarding shows guards r s sql) (hk : Shown shows ids k)
    (hentries : ∀ x, guards x → x.pgid ∈ ids → x ∈ entries) (hdistinct : (entries.map (·.pgid)).Nodup)
    (hsent : result (withSavepoint sql) k = (.error e, k')) :
    Shown shows ids k' ∧ ∃ x, guards x ∧ x.pgid ∈ ids ∧ inTheWay? entries e = some x := by
  rcases hguarding.attempt hk with ⟨-, _, hresult, -⟩ | ⟨x, e', k₁, hx, hstands, hblames, hresult, hk₁⟩
  · cases hresult.symm.trans hsent
  · obtain ⟨he, rfl⟩ := Prod.mk.inj (hresult.symm.trans hsent)
    obtain rfl := Except.error.inj he
    exact ⟨hk₁, x, hx, hstands, inTheWay?_of_blocker? hdistinct (hentries x hx hstands) hblames⟩

/-- The way gets free: what guards the column is dropped, all of it and nothing else. -/
theorem Clears.unblocks {entries : List Entry} {out : Except Error (List Entry)}
    (h : Clears sql entries k out k') (hguarding : Guarding shows guards r s sql)
    (hk : Shown shows ids k) (hentries : ∀ x, guards x → x.pgid ∈ ids → x ∈ entries)
    (hdistinct : (entries.map (·.pgid)).Nodup) :
    ∃ xs ids', out = .ok xs ∧ Shown shows ids' k' ∧ (∀ x, x ∈ xs ↔ guards x ∧ x.pgid ∈ ids) ∧
      ∀ id, id ∈ ids' ↔ id ∈ ids ∧ id ∉ xs.map (·.pgid) := by
  induction h generalizing ids with
  | done hsent =>
    rcases hguarding.attempt hk with ⟨hfree, k', hresult, hk'⟩ | ⟨x, e, k', -, -, -, hresult, -⟩
    · obtain ⟨-, rfl⟩ := Prod.mk.inj (hresult.symm.trans hsent)
      exact ⟨[], ids, rfl, hk', fun x => iff_of_false List.not_mem_nil fun hx => hfree ⟨x, hx⟩,
        fun id => by simp⟩
    · cases hresult.symm.trans hsent
  | hopeless hsent hway =>
    obtain ⟨-, x, -, -, hfound⟩ := hguarding.inTheWay hk hentries hdistinct hsent
    cases hway.symm.trans hfound
  | stuck hsent hway hgave =>
    obtain ⟨hk₁, x, hx, -, hfound⟩ := hguarding.inTheWay hk hentries hdistinct hsent
    obtain rfl := Option.some.inj (hway.symm.trans hfound)
    obtain ⟨k₂, hgiven, -⟩ := hguarding.giveWay hk₁ hx
    cases hgiven.symm.trans hgave
  | @cleared entries _ _ _ _ _ x _ hsent hway hgave _ ih =>
    obtain ⟨hk₁, x', hx, hstands, hfound⟩ := hguarding.inTheWay hk hentries hdistinct hsent
    obtain rfl := Option.some.inj (hway.symm.trans hfound)
    obtain ⟨k₂, hgiven, hk₂⟩ := hguarding.giveWay hk₁ hx
    obtain ⟨-, rfl⟩ := Prod.mk.inj (hgiven.symm.trans hgave)
    -- what is left is the same without that trigger
    obtain ⟨xs, ids', rfl, hk', hxs, hids'⟩ := ih hk₂
      (fun y hy hmem => by
        obtain ⟨hmem, hne⟩ := by simpa using hmem
        exact mem_without.2 ⟨hentries y hy hmem, hne⟩)
      (hdistinct.sublist (List.filter_sublist.map _))
    refine ⟨x :: xs, ids', rfl, hk', fun y => ?_, fun id => ?_⟩
    · rw [List.mem_cons, hxs]
      constructor
      · rintro (rfl | ⟨hy, hmem⟩)
        · exact ⟨hx, hstands⟩
        · exact ⟨hy, (List.mem_filter.1 hmem).1⟩
      · rintro ⟨hy, hmem⟩
        by_cases heq : y.pgid = x.pgid
        · exact .inl (List.inj_on_of_nodup_map hdistinct (hentries y hy hmem) (mem_of_inTheWay? hway) heq)
        · exact .inr ⟨hy, by simpa using ⟨hmem, heq⟩⟩
    · rw [hids']
      simp only [List.map_cons, List.mem_cons, List.mem_filter, decide_eq_true_eq, not_or, and_assoc]

/-- What was dropped is installed again. -/
theorem Reinstalls.unblocks {xs : List Entry} {out : Except Error (List String)}
    (h : Reinstalls s xs k out k') (hguarding : Guarding shows guards r s sql)
    (hk : Shown shows ids k) (hxs : ∀ x ∈ xs, guards x) :
    ∃ ids', out = .ok (xs.map (·.pgid)) ∧ Shown shows ids' k' ∧
      ∀ id, id ∈ ids' ↔ id ∈ ids ∨ id ∈ xs.map (·.pgid) := by
  induction h generalizing ids with
  | done => exact ⟨ids, rfl, hk, fun id => by simp⟩
  | unwritten hunwritten =>
    obtain ⟨text, htext⟩ := hguarding.written (hxs _ List.mem_cons_self)
    cases htext.symm.trans hunwritten
  | refused htext hsent =>
    obtain ⟨k₁, hresult, -⟩ := hguarding.reinstall hk (hxs _ List.mem_cons_self) htext
    cases hresult.symm.trans hsent
  | @installed x xs _ _ _ _ _ htext hsent _ ih =>
    obtain ⟨k₁, hresult, hk₁⟩ := hguarding.reinstall hk (hxs x List.mem_cons_self) htext
    obtain ⟨-, rfl⟩ := Prod.mk.inj (hresult.symm.trans hsent)
    obtain ⟨ids', rfl, hk', hids'⟩ := ih hk₁ fun y hy => hxs y (List.mem_cons_of_mem _ hy)
    refine ⟨ids', rfl, hk', fun id => ?_⟩
    rw [hids', List.map_cons, List.mem_cons, List.mem_cons, or_assoc, or_left_comm]

/-- Inside a transaction, the alteration gets through. -/
theorem Body.unblocks {out : Except Error (List String)} (h : Body r s sql k out k')
    (hguarding : Guarding shows guards r s sql) (hk : Shown shows ids k)
    (hdistinct : (r.entries.map (·.pgid)).Nodup) :
    ∃ ids' gone, out = .ok gone ∧ Shown shows ids' k' ∧
      (∀ id, id ∈ gone ↔ ∃ x, guards x ∧ x.pgid = id ∧ id ∈ ids) ∧ ∀ id, id ∈ ids' ↔ id ∈ ids := by
  cases h with
  | failed hclears =>
    obtain ⟨xs, ids', hout, -⟩ := hclears.unblocks hguarding hk
      (fun x hx _ => hguarding.registered hx) hdistinct
    cases hout
  | @cleared _ _ xs _ hclears hreinstalls =>
    obtain ⟨xs', ids₁, hout, hk₁, hxs, hids₁⟩ := hclears.unblocks hguarding hk
      (fun x hx _ => hguarding.registered hx) hdistinct
    obtain rfl := Except.ok.inj hout
    obtain ⟨ids', rfl, hk', hids'⟩ := hreinstalls.unblocks hguarding hk₁ fun x hx => ((hxs x).1 hx).1
    refine ⟨ids', _, rfl, hk', fun id => ?_, fun id => ?_⟩
    · rw [List.mem_map]
      constructor
      · rintro ⟨x, hx, rfl⟩
        exact ⟨x, ((hxs x).1 hx).1, rfl, ((hxs x).1 hx).2⟩
      · rintro ⟨x, hx, rfl, hmem⟩
        exact ⟨x, (hxs x).2 ⟨hx, hmem⟩, rfl⟩
    · rw [hids', hids₁]
      refine ⟨fun h => h.elim (·.1) fun h => ?_, fun h => ?_⟩
      · obtain ⟨x, hx, rfl⟩ := List.mem_map.1 h
        exact ((hxs x).1 hx).2
      · exact (Classical.em (id ∈ xs.map (·.pgid))).symm.imp (fun hnot => ⟨h, hnot⟩) fun h => h

/-- In a transaction or out of one, the alteration gets through. -/
theorem Alters.unblocks {out : Except Error (List String)} {S : Scene} (h : Alters r s sql k out k')
    (hguarding : Guarding shows guards r s sql) (hk : shows k S)
    (hphase : S.phase = if inTransaction k then .inTransaction else .idle)
    (hdistinct : (r.entries.map (·.pgid)).Nodup) :
    ∃ S' gone, out = .ok gone ∧ shows k' S' ∧ S'.phase = S.phase ∧
      (∀ id, id ∈ gone ↔ ∃ x, guards x ∧ x.pgid = id ∧ id ∈ S.standing) ∧
        ∀ id, id ∈ S'.standing ↔ id ∈ S.standing := by
  have hbegun : inTransaction k = false → ∃ k₁, result (batch "BEGIN") k = (.ok (), k₁) ∧
      Shown shows S.standing k₁ := fun hin =>
    have ⟨k₁, hbegin, hk₁⟩ := hguarding.begins hk (by rw [hphase, hin]; rfl)
    ⟨k₁, hbegin, S.savepoints, hk₁⟩
  cases h with
  | inside hin hbody =>
    obtain ⟨phase, ids, older⟩ := S
    obtain rfl : phase = .inTransaction := hphase.trans (if_pos hin)
    obtain ⟨ids', gone, rfl, ⟨savepoints, hk'⟩, hgone, hids'⟩ :=
      hbody.unblocks hguarding ⟨older, hk⟩ hdistinct
    exact ⟨_, gone, rfl, hk', rfl, hgone, hids'⟩
  | unopened hin hbegin =>
    obtain ⟨k₁, hresult, -⟩ := hbegun hin
    cases hresult.symm.trans hbegin
  | finished hin hbegin hbody hcommit =>
    obtain ⟨k₁, hresult, hk₁⟩ := hbegun hin
    obtain ⟨-, rfl⟩ := Prod.mk.inj (hresult.symm.trans hbegin)
    obtain ⟨ids', gone, hgone', ⟨savepoints, hk₂⟩, hgone, hids'⟩ :=
      hbody.unblocks hguarding hk₁ hdistinct
    obtain rfl := Except.ok.inj hgone'
    obtain ⟨k₃, hresult, hk₃⟩ := hguarding.commits hk₂ rfl
    obtain ⟨rfl, rfl⟩ := Prod.mk.inj (hresult.symm.trans hcommit)
    rw [hin] at hphase
    exact ⟨_, _, rfl, hk₃, hphase.symm, hgone, hids'⟩
  | undone hin hbegin hbody =>
    obtain ⟨k₁, hresult, hk₁⟩ := hbegun hin
    obtain ⟨-, rfl⟩ := Prod.mk.inj (hresult.symm.trans hbegin)
    obtain ⟨ids', gone, hgone, -⟩ := hbody.unblocks hguarding hk₁ hdistinct
    cases hgone
  | lost hin hbegin hbody =>
    obtain ⟨k₁, hresult, hk₁⟩ := hbegun hin
    obtain ⟨-, rfl⟩ := Prod.mk.inj (hresult.symm.trans hbegin)
    obtain ⟨ids', gone, hgone, -⟩ := hbody.unblocks hguarding hk₁ hdistinct
    cases hgone

end

end DeclaredTriggers
