import DeclaredTriggers.Hook.Context
import Mathlib.Data.Nat.Find

/-!
# What is kept of a long message

A message is cut to a number of bytes, but never within a character. `takeBytes` takes characters from the front
while they fit, and what it takes can be said without it:

> `Text.isLongestWithin_iff`: it is the one longest beginning of the text that fits.
>
> `Text.utf8ByteSize_takeBytes`: it ends where one comes first, going back from the limit byte by byte, to a place
> between two characters.
>
> `Hook.Outcome.longest_kept`: so what is shown of an error is the message itself, or its longest beginning within
> 512 bytes and three dots.
-/

namespace DeclaredTriggers

namespace Text

/-! ## Bytes of a text -/

theorem byteLength_eq (s : List Char) : byteLength s = (String.ofList s).utf8ByteSize := by
  induction s with
  | nil => rfl
  | cons c s ih =>
    have hcons : String.ofList (c :: s) = String.singleton c ++ String.ofList s := by
      rw [String.singleton_eq_ofList, ← String.ofList_append, List.singleton_append]
    rw [byteLength, ih, hcons, String.utf8ByteSize_append, String.utf8ByteSize_singleton]

/-- The bytes of a text are those of its UTF-8 form. -/
theorem byteSize_eq (s : String) : byteSize s = s.utf8ByteSize := by
  rw [byteSize, byteLength_eq, String.ofList_toList]

theorem byteLength_replicate (n : Nat) (c : Char) : byteLength (List.replicate n c) = n * c.utf8Size := by
  induction n with
  | zero => rw [Nat.zero_mul]; rfl
  | succ n ih => rw [List.replicate_succ, byteLength, ih, Nat.succ_mul, Nat.add_comm]

/-! ## The longest beginning that fits -/

theorem takeBytes_prefix (n : Nat) (s : List Char) : takeBytes n s <+: s := by
  induction s generalizing n with
  | nil => exact List.prefix_rfl
  | cons c s ih =>
    rw [takeBytes]
    split
    next => exact List.cons_prefix_cons.2 ⟨rfl, ih _⟩
    next => exact List.nil_prefix

/-- Whatever fits is a beginning of what is taken. -/
theorem prefix_takeBytes {n : Nat} {p s : List Char} (hp : p <+: s) (hfits : byteLength p ≤ n) :
    p <+: takeBytes n s := by
  induction s generalizing n p with
  | nil => exact hp
  | cons c s ih =>
    cases p with
    | nil => exact List.nil_prefix
    | cons d p =>
      obtain ⟨rfl, hrest⟩ := List.cons_prefix_cons.1 hp
      rw [byteLength] at hfits
      rw [takeBytes, if_pos (by omega)]
      exact List.cons_prefix_cons.2 ⟨rfl, ih hrest (by omega)⟩

/-- The longest beginning of a text, in whole characters, that takes no more than `n` bytes. -/
structure IsLongestWithin (n : Nat) (s kept : String) : Prop where
  beginning : ∃ rest, s = kept ++ rest
  fits : kept.utf8ByteSize ≤ n
  longest : ∀ p rest, s = p ++ rest → p.utf8ByteSize ≤ n → p.utf8ByteSize ≤ kept.utf8ByteSize

theorem isLongestWithin_takeBytes (n : Nat) (s : String) :
    IsLongestWithin n s (String.ofList (takeBytes n s.toList)) := by
  refine ⟨?_, ?_, fun p rest hs hfits => ?_⟩
  · obtain ⟨rest, hrest⟩ := takeBytes_prefix n s.toList
    exact ⟨String.ofList rest, by rw [← String.ofList_append, hrest, String.ofList_toList]⟩
  · rw [← byteLength_eq]
    exact byteLength_takeBytes_le n s.toList
  · have hp : p.toList <+: s.toList := ⟨rest.toList, by rw [hs, String.toList_append]⟩
    rw [← byteSize_eq, byteSize] at hfits
    obtain ⟨more, hmore⟩ := prefix_takeBytes hp hfits
    rw [← hmore, String.ofList_append, String.ofList_toList, String.utf8ByteSize_append]
    exact Nat.le_add_right _ _

theorem isLongestWithin_iff {n : Nat} {s kept : String} :
    IsLongestWithin n s kept ↔ kept = String.ofList (takeBytes n s.toList) := by
  refine ⟨fun h => ?_, fun h => h ▸ isLongestWithin_takeBytes n s⟩
  obtain ⟨rest, hs⟩ := h.beginning
  obtain ⟨taken, htaken⟩ := takeBytes_prefix n s.toList
  have hfits : byteLength kept.toList ≤ n := by
    rw [byteLength_eq, String.ofList_toList]
    exact h.fits
  have hprefix : kept.toList <+: takeBytes n s.toList :=
    prefix_takeBytes ⟨rest.toList, by rw [hs, String.toList_append]⟩ hfits
  have hsize : byteLength (takeBytes n s.toList) ≤ byteLength kept.toList := by
    rw [byteLength_eq, byteLength_eq, String.ofList_toList]
    refine h.longest _ (String.ofList taken) ?_ (isLongestWithin_takeBytes n s).fits
    rw [← String.ofList_append, htaken, String.ofList_toList]
  rw [← eq_of_prefix_of_byteLength_le hprefix hsize, String.ofList_toList]

/-- Going back from the limit, the first place between two characters is where a text is cut. -/
theorem utf8ByteSize_takeBytes (n : Nat) (s : String) :
    (String.ofList (takeBytes n s.toList)).utf8ByteSize =
      Nat.findGreatest (fun i => String.Pos.Raw.IsValid s ⟨i⟩) n := by
  have hkept := isLongestWithin_takeBytes n s
  refine (Nat.findGreatest_eq_iff.2 ⟨hkept.fits, fun _ => ?_, fun i hlt hle hvalid => ?_⟩).symm
  · obtain ⟨rest, hrest⟩ := hkept.beginning
    exact String.Pos.Raw.isValid_iff_exists_append.2 ⟨_, rest, hrest, rfl⟩
  · obtain ⟨p, rest, hs, hi⟩ := String.Pos.Raw.isValid_iff_exists_append.1 hvalid
    obtain rfl : i = p.utf8ByteSize := congrArg String.Pos.Raw.byteIdx hi
    exact absurd (hkept.longest p rest hs hle) (Nat.not_le_of_lt hlt)

end Text

namespace Hook.Outcome

open Text (IsLongestWithin byteLength takeBytes)

/-- What is kept of a text is its one longest beginning within the limit, found going back from there. What is shown
of an error never takes more than 515 bytes: a message of up to 512 bytes as it is, and of a longer one the longest
beginning within 512 bytes with three dots behind it. -/
theorem longest_kept (n : Nat) (s message : String) :
    (∀ kept, kept = String.ofList (takeBytes n s.toList) ↔ IsLongestWithin n s kept) ∧
    (String.ofList (takeBytes n s.toList)).utf8ByteSize =
      Nat.findGreatest (fun i => String.Pos.Raw.IsValid s ⟨i⟩) n ∧
    ∃ shown, ofMessage message = .failed shown ∧ shown.utf8ByteSize ≤ 515 ∧
      (message.utf8ByteSize ≤ 512 → shown = message) ∧
      (512 < message.utf8ByteSize → ∃ kept, IsLongestWithin 512 message kept ∧ shown = kept ++ "...") := by
  refine ⟨fun kept => Text.isLongestWithin_iff.symm, Text.utf8ByteSize_takeBytes n s,
    Text.abbreviated maxErrorLength message, rfl, ?_⟩
  unfold Text.abbreviated maxErrorLength
  rw [Text.byteSize_eq]
  split
  next hlong =>
    have hkept := Text.isLongestWithin_takeBytes 512 message
    refine ⟨?_, fun hshort => absurd hlong (Nat.not_lt_of_le hshort), fun _ => ⟨_, hkept, rfl⟩⟩
    rw [String.utf8ByteSize_append]
    exact Nat.add_le_add_right hkept.fits 3
  next hshort =>
    exact ⟨by omega, fun _ => rfl, fun hlong => absurd hlong hshort⟩

/-- What stands in front of the last character within the limit. -/
def front : List Char := List.replicate 511 'x'

theorem byteLength_front : byteLength front = 511 := Text.byteLength_replicate 511 'x'

/-- A character that the limit falls within is left out. -/
theorem longest_kept_accented :
    512 < (String.ofList (front ++ ['é', '!'])).utf8ByteSize ∧
      ofMessage (String.ofList (front ++ ['é', '!'])) = .failed (String.ofList front ++ "...") := by
  have hlong : 512 < (String.ofList (front ++ ['é', '!'])).utf8ByteSize := by
    rw [← Text.byteLength_eq, Text.byteLength_append, byteLength_front]
    decide
  have htaken : takeBytes 512 (String.ofList (front ++ ['é', '!'])).toList = front := by
    rw [String.toList_ofList, Text.takeBytes_append (by rw [byteLength_front]; decide), byteLength_front]
    exact List.append_nil _
  obtain ⟨hkept, -, shown, hshown, -, -, hcut⟩ := longest_kept 512 (String.ofList (front ++ ['é', '!'])) _
  obtain ⟨kept, hlongest, rfl⟩ := hcut hlong
  rw [(hkept kept).2 hlongest, htaken] at hshown
  exact ⟨hlong, hshown⟩

end Hook.Outcome

end DeclaredTriggers
