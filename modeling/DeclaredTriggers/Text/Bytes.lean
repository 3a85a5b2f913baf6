/-!
# Lengths in bytes

Names and messages are limited by the bytes of their UTF-8 form, and are only ever cut between
two characters. `takeBytes n s` is the longest such beginning of `s` that fits into `n` bytes.
-/

namespace DeclaredTriggers.Text

/-- The bytes a text takes in UTF-8. -/
def byteLength : List Char → Nat
  | [] => 0
  | c :: rest => c.utf8Size + byteLength rest

/-- The longest beginning of a text, in whole characters, that fits into `n` bytes. -/
def takeBytes : Nat → List Char → List Char
  | _, [] => []
  | n, c :: rest => if c.utf8Size ≤ n then c :: takeBytes (n - c.utf8Size) rest else []

/-- The bytes a text takes in UTF-8. -/
def byteSize (s : String) : Nat := byteLength s.toList

/-- A text of more than `limit` bytes cut to that many, with three dots after it. -/
def abbreviated (limit : Nat) (s : String) : String :=
  if limit < byteSize s then String.ofList (takeBytes limit s.toList) ++ "..." else s

@[simp] theorem byteLength_append (s t : List Char) :
    byteLength (s ++ t) = byteLength s + byteLength t := by
  induction s with
  | nil => simp [byteLength]
  | cons c s ih => simp [byteLength, ih, Nat.add_assoc]

/-- A beginning that takes as many bytes as the whole is the whole. -/
theorem eq_of_prefix_of_byteLength_le {p s : List Char} (hp : p <+: s) (h : byteLength s ≤ byteLength p) : p = s := by
  obtain ⟨rest, rfl⟩ := hp
  rw [byteLength_append] at h
  cases rest with
  | nil => rw [List.append_nil]
  | cons c rest =>
    have := c.utf8Size_pos
    rw [byteLength] at h
    omega

/-- A beginning that fits is taken, and more of what follows it. -/
theorem takeBytes_append {n : Nat} {p : List Char} (hfits : byteLength p ≤ n) (s : List Char) :
    takeBytes n (p ++ s) = p ++ takeBytes (n - byteLength p) s := by
  induction p generalizing n with
  | nil => rfl
  | cons c p ih =>
    rw [byteLength] at hfits ⊢
    rw [List.cons_append, takeBytes, if_pos (by omega), ih (by omega), Nat.sub_sub]
    rfl

/-- A text that fits is not cut. -/
theorem takeBytes_of_le {n : Nat} {s : List Char} (h : byteLength s ≤ n) : takeBytes n s = s := by
  have htaken := takeBytes_append h []
  rwa [takeBytes, List.append_nil] at htaken

/-- A beginning is what is taken by its own length. -/
theorem takeBytes_byteLength (p s : List Char) : takeBytes (byteLength p) (p ++ s) = p := by
  rw [takeBytes_append (Nat.le_refl _), Nat.sub_self]
  cases s with
  | nil => exact List.append_nil p
  | cons c s =>
    have := c.utf8Size_pos
    rw [takeBytes, if_neg (by omega), List.append_nil]

/-- What is taken fits. -/
theorem byteLength_takeBytes_le (n : Nat) (s : List Char) : byteLength (takeBytes n s) ≤ n := by
  induction s generalizing n with
  | nil => simp [takeBytes, byteLength]
  | cons c s ih =>
    unfold takeBytes
    split
    next h => simp only [byteLength]; have := ih (n - c.utf8Size); omega
    next => simp [byteLength]

end DeclaredTriggers.Text
