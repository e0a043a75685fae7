import LinDeX.Library.Bits

/-!
# Byte streams of NAL units

Units behind start codes, with emulation prevention bytes inside them. A unit ends in front of the
next three bytes `000000` or `000001`, or with the stream.
-/
namespace LinDeX.AnnexB
open Bits List
variable {α : Type}
/-- A payload with its emulation prevention bytes; `zeros` counts the zero bytes just written. -/
def escape : Nat → List UInt8 → List UInt8
  | _, [] => []
  | zeros, byte :: rest =>
    if 2 ≤ zeros ∧ byte ≤ 3 then 3 :: byte :: escape (if byte = 0 then 1 else 0) rest
    else byte :: escape (if byte = 0 then zeros + 1 else 0) rest

def unescape : Nat → List UInt8 → List UInt8
  | _, [] => []
  | zeros, byte :: rest =>
    if 2 ≤ zeros ∧ byte = 3 then unescape 0 rest
    else byte :: unescape (if byte = 0 then zeros + 1 else 0) rest

theorem unescape_escape (zeros : Nat) (payload : List UInt8) :
    unescape zeros (escape zeros payload) = payload := by
  induction payload generalizing zeros with
  | nil => rfl
  | cons byte rest ih =>
    rw [escape]
    split
    · rename_i hescape
      rw [unescape,if_pos ⟨hescape.1,rfl⟩,unescape,if_neg (by omega),ih]
    · rename_i hplain
      have hkept : ¬ (2 ≤ zeros ∧ byte = 3) := by
        rintro ⟨hzeros,rfl⟩
        exact hplain ⟨hzeros,UInt8.le_refl 3⟩
      rw [unescape,if_neg hkept,ih]

theorem length_escape_le (zeros : Nat) (payload : List UInt8) :
    (escape zeros payload).length ≤ 2 * payload.length := by
  induction payload generalizing zeros with
  | nil => exact Nat.zero_le _
  | cons byte rest ih =>
    rw [escape]
    split
    · have := ih (if byte = 0 then 1 else 0)
      simp only [length_cons]
      omega
    · have := ih (if byte = 0 then zeros + 1 else 0)
      simp only [length_cons]
      omega

def endsUnit : List UInt8 → Bool
  | 0 :: 0 :: byte :: _ => decide (byte ≤ 1)
  | _ => false

def takeUnit : List UInt8 → List UInt8 × List UInt8
  | [] => ([], [])
  | byte :: rest =>
    if endsUnit (byte :: rest) then ([], byte :: rest)
    else (byte :: (takeUnit rest).1, (takeUnit rest).2)

def skipStartCode : List UInt8 → Option (List UInt8)
  | 0 :: 0 :: 1 :: rest => some rest
  | 0 :: rest => skipStartCode rest
  | _ => none

/-- The units of a stream, as long as there are at most `fuel` of them. -/
def unitsUpTo : Nat → List UInt8 → Option (List (List UInt8))
  | fuel, bytes =>
    if bytes.all (· == 0) then some []
    else
      match fuel with
      | 0 => none
      | fuel + 1 => do
          let rest ← skipStartCode bytes
          let units ← unitsUpTo fuel (takeUnit rest).2
          return (takeUnit rest).1 :: units

def units (stream : List UInt8) : Option (List (List UInt8)) := unitsUpTo stream.length stream
variable (unit : List UInt8)
def framed : List UInt8 := 0 :: 0 :: 0 :: 1 :: unit

/-- A unit is found again in front of a start code and at the end of the stream. -/
def Delimited : Prop :=
  takeUnit unit = (unit, []) ∧ ∀ rest, takeUnit (unit ++ framed rest) = (unit, framed rest)

/-- Zeros that are followed by another byte do not end a unit if an emulation prevention byte would
not have been put there. -/
theorem takeUnit_zeros {zeros : Nat} {byte : UInt8} (rest : List UInt8) (hzeros : zeros ≤ 2)
    (hbyte : byte ≠ 0) (hplain : zeros = 2 → ¬ byte ≤ 1) :
    takeUnit (List.replicate zeros 0 ++ byte :: rest) =
      (List.replicate zeros 0 ++ byte :: (takeUnit rest).1, (takeUnit rest).2) := by
  have hone : endsUnit (byte :: rest) = false := by
    unfold endsUnit
    split
    · rename_i heq
      exact absurd (List.cons.inj heq).1 hbyte
    · rfl
  have htwo : endsUnit (0 :: byte :: rest) = false := by
    unfold endsUnit
    split
    · rename_i heq
      exact absurd (List.cons.inj (List.cons.inj heq).2).1 hbyte
    · rfl
  obtain rfl | rfl | rfl : zeros = 0 ∨ zeros = 1 ∨ zeros = 2 := by omega
  · simp [takeUnit,hone]
  · simp [takeUnit,hone,htwo]
  · have hthree : endsUnit (0 :: 0 :: byte :: rest) = false := decide_eq_false (hplain rfl)
    simp [replicate_succ,takeUnit,hone,htwo,hthree]

theorem takeUnit_cons {byte : UInt8} (rest : List UInt8) (hbyte : byte ≠ 0) :
    takeUnit (byte :: rest) = (byte :: (takeUnit rest).1, (takeUnit rest).2) :=
  @takeUnit_zeros 0 byte rest (Nat.zero_le 2) hbyte nofun
variable {zeros : Nat}
theorem takeUnit_escape {payload tail : List UInt8} (hzeros : zeros ≤ 2)
    (hnil : payload = [] → zeros = 0) (hlast : payload.getLast? ≠ some 0)
    (htail : takeUnit tail = ([], tail)) :
    takeUnit (List.replicate zeros 0 ++ (escape zeros payload ++ tail)) =
      (List.replicate zeros 0 ++ escape zeros payload, tail) := by
  induction payload generalizing zeros with
  | nil =>
    rw [hnil rfl]
    exact htail
  | cons byte rest ih =>
    have hrest : rest.getLast? ≠ some 0 := by
      cases rest with
      | nil => nofun
      | cons next rest => rwa [List.getLast?_cons_cons] at hlast
    have hzero (h : byte = 0) : rest ≠ [] := by
      rintro rfl
      exact hlast (by rw [h]; rfl)
    have hplain (h : byte ≠ 0) : takeUnit (escape 0 rest ++ tail) = (escape 0 rest, tail) :=
      ih (Nat.zero_le 2) (fun _ => rfl) hrest
    rw [escape]
    split
    · -- The zeros stand in front of an emulation prevention byte.
      have hthree (rest : List UInt8) :
          takeUnit (List.replicate zeros 0 ++ 3 :: rest) =
            (List.replicate zeros 0 ++ 3 :: (takeUnit rest).1, (takeUnit rest).2) :=
        takeUnit_zeros rest hzeros (by decide) fun _ => by decide
      rw [cons_append,hthree,cons_append]
      by_cases h : byte = 0
      · subst h
        have hone : takeUnit (0 :: (escape 1 rest ++ tail)) = (0 :: escape 1 rest, tail) :=
          @ih 1 (by decide) (fun hnil => absurd hnil (hzero rfl)) hrest
        rw [if_pos rfl,hone]
      · rw [if_neg h,takeUnit_cons _ h,hplain h]
    · rename_i hkept
      by_cases h : byte = 0
      · subst h
        have hfew : zeros + 1 ≤ 2 := by
          have : ¬ 2 ≤ zeros := fun h => hkept ⟨h,by decide⟩
          omega
        have hmore := ih hfew (fun hnil => absurd hnil (hzero rfl)) hrest
        rw [if_pos rfl]
        simpa [replicate_succ',append_assoc] using hmore
      · rw [if_neg h,cons_append,takeUnit_zeros _ hzeros h,hplain h]
        intro htwo hle
        exact hkept ⟨Nat.le_of_eq htwo.symm,UInt8.le_trans hle (by decide)⟩

theorem delimited_escape {header payload : List UInt8} (hheader : ∀ byte ∈ header, byte ≠ 0)
    (hlast : payload.getLast? ≠ some 0) : Delimited (header ++ escape 0 payload) := by
  have htake (tail : List UInt8) (htail : takeUnit tail = ([], tail)) :
      takeUnit (header ++ escape 0 payload ++ tail) = (header ++ escape 0 payload, tail) := by
    induction header with
    | nil => exact takeUnit_escape (Nat.zero_le 2) (fun _ => rfl) hlast htail
    | cons byte header ih =>
      rw [cons_append,cons_append,takeUnit_cons _ (hheader byte mem_cons_self),
        ih fun b hb => hheader b (mem_cons_of_mem byte hb)]
  refine ⟨?_,fun rest => htake (framed rest) rfl⟩
  have hend := htake [] rfl
  rwa [append_nil] at hend

theorem units_framed {fuel : Nat} {l : List (List UInt8)} (hfuel : l.length ≤ fuel)
    (hl : ∀ unit ∈ l, Delimited unit) : unitsUpTo fuel (l.flatMap framed) = some l := by
  induction l generalizing fuel with
  | nil =>
    unfold unitsUpTo
    rfl
  | cons unit l ih =>
    obtain ⟨fuel,rfl⟩ := Nat.exists_eq_succ_of_ne_zero (Nat.ne_zero_of_lt hfuel)
    have htake : takeUnit (unit ++ l.flatMap framed) = (unit, l.flatMap framed) := by
      cases l with
      | nil =>
        rw [List.flatMap_nil,append_nil]
        exact (hl unit mem_cons_self).1
      | cons next l => exact (hl unit mem_cons_self).2 (next ++ l.flatMap framed)
    unfold unitsUpTo
    rw [if_neg (by simp [framed])]
    change ((unitsUpTo fuel (takeUnit (unit ++ l.flatMap framed)).2).bind fun units =>
      some ((takeUnit (unit ++ l.flatMap framed)).1 :: units)) = _
    rw [htake,ih (Nat.le_of_succ_le_succ hfuel) fun u hu => hl u (mem_cons_of_mem unit hu)]
    rfl

theorem units_of_delimited {l : List (List UInt8)} (hl : ∀ unit ∈ l, Delimited unit) :
    units (l.flatMap framed) = some l := by
  refine units_framed ?_ hl
  clear hl
  induction l with
  | nil => exact Nat.zero_le _
  | cons unit l ih =>
    rw [List.flatMap_cons,length_append,framed]
    simp only [length_cons]
    omega

theorem endsUnit_drop {bytes unit rest : List UInt8} (h : takeUnit bytes = (unit, rest)) {j : Nat}
    (hj : j < unit.length) : endsUnit (bytes.drop j) = false := by
  induction bytes generalizing unit j with
  | nil =>
    cases h
    cases hj
  | cons byte bytes ih =>
    unfold takeUnit at h
    split at h
    · cases h
      cases hj
    · rename_i hgoes
      cases h
      cases j with
      | zero => exact eq_false_of_ne_true hgoes
      | succ j => exact ih rfl (Nat.lt_of_succ_lt_succ hj)

/-- The bits that end a payload: a one, and zeros up to the end of the byte. -/
def isTrailing : List Bool → Bool
  | true :: rest => rest.all (!·) && decide (rest.length < 8)
  | _ => false

def trailing (zeros : Nat) : List Bool := true :: List.replicate zeros false
theorem isTrailing_trailing (h : zeros < 8) : isTrailing (trailing zeros) = true := by
  simp [isTrailing,trailing,h]
def moreData : Parser Bool := fun bits => some (!isTrailing bits, bits)

/-- A unit is taken apart: its header, and what the parser makes of its payload, which it has to
consume up to the trailing bits. -/
def decodeUnit (headerSize : Nat) (parser : Parser α) (unit : List UInt8) :
    Option (List UInt8 × α) :=
  match parser (ofBytes (unescape 0 (unit.drop headerSize))) with
  | some (a, rest) => if isTrailing rest then some (unit.take headerSize, a) else none
  | none => none

theorem decodeUnit_escape {parser : Parser α} {payload header : List UInt8} {a : α}
    (hzeros : zeros < 8) (h : parser (ofBytes payload) = some (a, trailing zeros)) :
    decodeUnit header.length parser (header ++ escape 0 payload) = some (header, a) := by
  rw [decodeUnit,drop_left,unescape_escape,h]
  simp [isTrailing_trailing hzeros]

theorem getLast_ne_zero {payload : List UInt8} {bits : List Bool} (hzeros : zeros < 8)
    (h : ofBytes payload = bits ++ trailing zeros) : payload.getLast? ≠ some 0 := by
  intro hlast
  obtain ⟨front,rfl⟩ := List.getLast?_eq_some_iff.mp hlast
  -- The last eight bits are zeros, but the stop bit is among them.
  have hzero : (ofBytes (front ++ [0])).reverse[zeros]? = some false := by
    have hbyte : ofBytes [0] = List.replicate 8 false := by decide
    rw [ofBytes_append,hbyte,reverse_append,reverse_replicate,
      List.getElem?_append_left (by simpa using hzeros),List.getElem?_replicate_of_lt hzeros]
  rw [h] at hzero
  simp [trailing] at hzero
end LinDeX.AnnexB
