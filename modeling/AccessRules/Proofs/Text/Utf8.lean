import AccessRules.Text.Utf8

/-!
Octets that spell a text in UTF-8 are read as that text. The octets of a character after its first
one are digits to the base 64, of which the front has the leading ones; the bounds of the second
octet leave out what has a shorter spelling or is half a pair, and so no character.
-/

namespace AccessRules

namespace Utf8

theorem toNat_octet {b : Nat} (small : b < 256) : (UInt8.ofNat b).toNat = b := by
  rw [UInt8.toNat_ofNat']
  omega

theorem piecesFrom_front {b : Nat} {front : Front} (small : b < 256)
    (opens : first b = ([], some front)) (rest : List UInt8) :
    piecesFrom none (UInt8.ofNat b :: rest) = piecesFrom (some front) rest := by
  simp [piecesFrom, toNat_octet small, opens]

namespace Front

def Continues (front : Front) (digit : Nat) : Prop :=
  digit < 64 ∧ front.low ≤ digit + 128 ∧ digit + 128 ≤ front.high

def extended (front : Front) (digit : Nat) : Front :=
  ⟨front.number * 64 + digit, front.read + 1, front.missing - 1, 0x80, 0xbf⟩

theorem continues_extended (front : Front) (leading : Nat) {digit : Nat} (small : digit < 64) :
    (front.extended leading).Continues digit := by
  change digit < 64 ∧ 128 ≤ digit + 128 ∧ digit + 128 ≤ 191
  omega

variable {front : Front} {digit : Nat}

theorem next_digit (continues : front.Continues digit) : next front (digit + 128) =
    if front.missing = 1 then ([.character (Char.ofNat (front.extended digit).number)], none)
    else ([], some (front.extended digit)) := by
  obtain ⟨small, low, high⟩ := continues
  have residue : (digit + 128) % 0x40 = digit := by omega
  rw [next, if_pos ⟨low, high⟩, residue]
  rfl

theorem piecesFrom_inner (continues : front.Continues digit) (more : front.missing ≠ 1)
    (rest : List UInt8) : piecesFrom (some front) (UInt8.ofNat (digit + 128) :: rest) =
      piecesFrom (some (front.extended digit)) rest := by
  have small := continues.1
  rw [piecesFrom, toNat_octet (by omega), next_digit continues, if_neg more]
  rfl

theorem piecesFrom_last (continues : front.Continues digit) (last : front.missing = 1)
    (rest : List UInt8) : piecesFrom (some front) (UInt8.ofNat (digit + 128) :: rest) =
      .character (Char.ofNat (front.extended digit).number) :: piecesFrom none rest := by
  have small := continues.1
  rw [piecesFrom, toNat_octet (by omega), next_digit continues, if_pos last]
  rfl

end Front

open Front

theorem piecesFrom_one {n : Nat} (small : n < 0x80) (rest : List UInt8) :
    piecesFrom none (UInt8.ofNat n :: rest) =
      .character (Char.ofNat n) :: piecesFrom none rest := by
  have octet : n < 256 := by omega
  simp [piecesFrom, toNat_octet octet, first, small]

theorem piecesFrom_two {n : Nat} (large : 0x80 ≤ n) (small : n < 0x800) (rest : List UInt8) :
    piecesFrom none (UInt8.ofNat (n / 64 % 32 + 192) :: UInt8.ofNat (n % 64 + 128) :: rest) =
      .character (Char.ofNat n) :: piecesFrom none rest := by
  obtain ⟨low, high, opens, continues⟩ : ∃ low high,
      first (n / 64 % 32 + 192) = ([], some ⟨n / 64 % 32, 1, 1, low, high⟩) ∧
        Continues ⟨n / 64 % 32, 1, 1, low, high⟩ (n % 64) := by
    have digit : (n / 64 % 32 + 192) % 0x20 = n / 64 % 32 := by omega
    unfold first Continues
    rw [if_neg (by omega), if_pos (by omega), digit]
    refine ⟨_, _, rfl, ?_⟩
    dsimp only
    omega
  have number : n / 64 % 32 * 64 + n % 64 = n := by omega
  rw [piecesFrom_front (by omega) opens, piecesFrom_last continues rfl, extended]
  dsimp only
  rw [number]

theorem piecesFrom_three {n : Nat} (large : 0x800 ≤ n) (small : n < 0x10000)
    (whole : n < 0xd800 ∨ 0xdfff < n) (rest : List UInt8) :
    piecesFrom none (UInt8.ofNat (n / 4096 % 16 + 224) :: UInt8.ofNat (n / 64 % 64 + 128) ::
        UInt8.ofNat (n % 64 + 128) :: rest) =
      .character (Char.ofNat n) :: piecesFrom none rest := by
  obtain ⟨low, high, opens, continues⟩ : ∃ low high,
      first (n / 4096 % 16 + 224) = ([], some ⟨n / 4096 % 16, 1, 2, low, high⟩) ∧
        Continues ⟨n / 4096 % 16, 1, 2, low, high⟩ (n / 64 % 64) := by
    have digit : (n / 4096 % 16 + 224) % 0x10 = n / 4096 % 16 := by omega
    unfold first Continues
    rw [if_neg (by omega), if_neg (by omega), if_pos (by omega), digit]
    refine ⟨_, _, rfl, ?_⟩
    dsimp only
    split <;> split <;> omega
  have number : (n / 4096 % 16 * 64 + n / 64 % 64) * 64 + n % 64 = n := by omega
  rw [piecesFrom_front (by omega) opens, piecesFrom_inner continues (by simp),
    piecesFrom_last (continues_extended _ _ (by omega)) rfl, extended, extended]
  dsimp only
  rw [number]

theorem piecesFrom_four {n : Nat} (large : 0x10000 ≤ n) (small : n < 0x110000)
    (rest : List UInt8) :
    piecesFrom none (UInt8.ofNat (n / 262144 % 8 + 240) :: UInt8.ofNat (n / 4096 % 64 + 128) ::
        UInt8.ofNat (n / 64 % 64 + 128) :: UInt8.ofNat (n % 64 + 128) :: rest) =
      .character (Char.ofNat n) :: piecesFrom none rest := by
  obtain ⟨low, high, opens, continues⟩ : ∃ low high,
      first (n / 262144 % 8 + 240) = ([], some ⟨n / 262144 % 8, 1, 3, low, high⟩) ∧
        Continues ⟨n / 262144 % 8, 1, 3, low, high⟩ (n / 4096 % 64) := by
    have digit : (n / 262144 % 8 + 240) % 0x08 = n / 262144 % 8 := by omega
    unfold first Continues
    rw [if_neg (by omega), if_neg (by omega), if_neg (by omega), if_pos (by omega), digit]
    refine ⟨_, _, rfl, ?_⟩
    dsimp only
    split <;> split <;> omega
  have number :
      ((n / 262144 % 8 * 64 + n / 4096 % 64) * 64 + n / 64 % 64) * 64 + n % 64 = n := by
    omega
  rw [piecesFrom_front (by omega) opens, piecesFrom_inner continues (by simp),
    piecesFrom_inner (continues_extended _ _ (by omega)) (by simp [extended]),
    piecesFrom_last (continues_extended _ _ (by omega)) rfl, extended, extended, extended]
  dsimp only
  rw [number]

theorem piecesFrom_encoded (c : Char) (rest : List UInt8) :
    piecesFrom none (String.utf8EncodeChar c ++ rest) = .character c :: piecesFrom none rest := by
  have scalar : c.toNat < 0xd800 ∨ 0xdfff < c.toNat ∧ c.toNat < 0x110000 := c.valid
  have named : Char.ofNat c.toNat = c := Char.ofNat_toNat c
  have width : c.val.toNat = c.toNat := rfl
  unfold String.utf8EncodeChar
  rw [width]
  generalize c.toNat = n at scalar named
  subst named
  dsimp only
  split
  · exact piecesFrom_one (by omega) rest
  split
  · exact piecesFrom_two (by omega) (by omega) rest
  split
  · exact piecesFrom_three (by omega) (by omega) (by omega) rest
  · exact piecesFrom_four (by omega) (by omega) rest

theorem text_encoded (s : List Char) : text (s.flatMap String.utf8EncodeChar) = s := by
  unfold text pieces
  induction s with
  | nil => rfl
  | cons c s ih => rw [List.flatMap_cons, piecesFrom_encoded, List.map_cons, ih, Piece.char]

theorem toList_loop (content : ByteArray) (i : Nat) (before : List UInt8) :
    ByteArray.toList.loop content i before = before.reverse ++ content.data.toList.drop i := by
  fun_induction ByteArray.toList.loop content i before with
  | case1 i before inside ih =>
    have inside' : i < content.data.toList.length := by simpa using inside
    rw [ih, List.drop_eq_getElem_cons inside']
    simp [ByteArray.get!, getElem!_pos, inside]
  | case2 i before outside =>
    have outside' : content.data.toList.length ≤ i := by simpa using outside
    rw [List.drop_eq_nil_of_le outside', List.append_nil]

theorem toList_eq_data (content : ByteArray) : content.toList = content.data.toList := by
  simp [ByteArray.toList, toList_loop]

/-- What a file holds that a text was written to is read as the text. -/
theorem text_toByteArray (s : String) : text s.toByteArray.data.toList = s.toList := by
  have spelled : s.toByteArray.data.toList = s.toList.flatMap String.utf8EncodeChar := by
    conv => lhs; rw [← String.ofList_toList (s := s), String.toByteArray_ofList]
    exact List.toList_data_toByteArray
  rw [spelled, text_encoded]

end Utf8

end AccessRules
