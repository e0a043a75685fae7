import LinDeX.Library.AnnexB
import LinDeX.Protocol.Wire

/-!
# Bit writers

`struct bit_writer` with the functions that fill it, and `append_annexb_nal`. The copies of the two
converters differ in the size of the buffer, the values that `put_bits` takes and the unit header.
-/
namespace LinDeX.Bitstream
open Bits AnnexB List
variable {α β : Type}
/-- `struct bit_writer`. The list holds the bytes in use. -/
structure BitWriter where
  data : List UInt8
  bitCount : Nat

def BitWriter.empty : BitWriter := ⟨[],0⟩

structure Format where
  /-- `sizeof(writer->data)`, which is also the size of the codec config. -/
  capacity : Nat
  /-- The width of the `value` parameter of `put_bits`. -/
  word : Nat
  wide : 32 ≤ word

abbrev Put := StateT BitWriter (Except Errno) Unit
variable (f : Format)
def putBit (value : Nat) : Put := fun w =>
  if 8 * f.capacity ≤ w.bitCount then .error .eoverflow
  else
    let data := if w.bitCount % 8 = 0 then w.data ++ [0] else w.data
    let bit := UInt8.ofNat ((value % 2) <<< (7 - w.bitCount % 8))
    .ok ((), ⟨data.modify (w.bitCount / 8) fun byte => byte ||| bit,w.bitCount + 1⟩)

/-- The loop of `put_bits`, from bit `count - 1` down. -/
def putBitsFrom (value : Nat) : Nat → Put
  | 0 => pure ()
  | shift + 1 => do
      putBit f (value >>> shift)
      putBitsFrom value shift

def putBits (value count : Nat) : Put :=
  if f.word < count then throw .einval else putBitsFrom f (value % 2 ^ f.word) count

def putZeros : Nat → Put
  | 0 => pure ()
  | count + 1 => do
      putBit f 0
      putZeros count

/-- `put_ue`. The loop over `code_num >> bits` finds the number of its bits. -/
def putUe (value : Nat) : Put := do
  putZeros f ((value + 1).size - 1)
  putBits f (value + 1) (value + 1).size

def putSe (value : Int) : Put :=
  let code := if value ≤ 0 then value.natAbs * 2 else value.natAbs * 2 - 1
  if 0xffffffff < code then throw .eoverflow else putUe f code

/-- The loop of `finish_rbsp`, which ends after seven rounds at the latest. -/
def alignZeros : Nat → Put
  | 0 => pure ()
  | rounds + 1 => fun w =>
    if w.bitCount % 8 = 0 then .ok ((), w)
    else
      (do
        putBit f 0
        alignZeros rounds) w

def finishRbsp : Put := do
  putBit f 1
  alignZeros f 7

def rbsp (m : Put) : Except Errno BitWriter :=
  let filled : Put := do
    m
    finishRbsp f
  (filled BitWriter.empty).map Prod.snd

def putWhen (c : Prop) [Decidable c] (m : Put) : Put := if c then m else pure ()

/-- A loop of `put_ue` over an array. -/
def putEach : List UInt16 → Put
  | [] => pure ()
  | value :: rest => do
      putUe f value.toNat
      putEach rest

def pushByte (output : List UInt8) (byte : UInt8) : Except Errno (List UInt8) :=
  if f.capacity ≤ output.length then .error .eoverflow else .ok (output ++ [byte])

/-- The loop of `append_annexb_nal`. -/
def appendEscaped (output : List UInt8) : Nat → List UInt8 → Except Errno (List UInt8)
  | _, [] => .ok output
  | zeroCount, byte :: rest =>
    if 2 ≤ zeroCount ∧ byte ≤ 3 then do
      let output ← pushByte f output 3
      let output ← pushByte f output byte
      appendEscaped output (if byte = 0 then 1 else 0) rest
    else do
      let output ← pushByte f output byte
      appendEscaped output (if byte = 0 then zeroCount + 1 else 0) rest

def appendAnnexbNal (output header : List UInt8) (rbsp : BitWriter) : Except Errno (List UInt8) :=
  if rbsp.bitCount % 8 ≠ 0 then .error .einval
  else if f.capacity < output.length ∨ f.capacity - output.length < 4 + header.length then
    .error .eoverflow
  else appendEscaped f (output ++ framed header) 0 (rbsp.data.take (rbsp.bitCount / 8))

def Holds (w : BitWriter) (bits : List Bool) : Prop :=
  w.bitCount = bits.length ∧ ∃ pad < 8, ofBytes w.data = bits ++ List.replicate pad false
theorem Holds.empty : Holds .empty [] := ⟨rfl,0,by decide,rfl⟩

section
variable {f} {w : BitWriter} {bits bits' : List Bool}
theorem Holds.length (h : Holds w bits) :
    ∃ pad < 8, ofBytes w.data = bits ++ List.replicate pad false ∧
    8 * w.data.length = bits.length + pad := by
  obtain ⟨-,pad,hpad,hdata⟩ := h
  have hlength := congrArg List.length hdata
  rw [length_ofBytes,length_append,length_replicate] at hlength
  exact ⟨pad,hpad,hdata,hlength⟩

theorem Holds.aligned (h : Holds w bits) (haligned : bits.length % 8 = 0) :
    ofBytes w.data = bits := by
  obtain ⟨pad,hpad,hdata,hlength⟩ := h.length
  have hzero : pad = 0 := by omega
  rwa [hzero,replicate_zero,append_nil] at hdata

theorem putBit_holds (value : Nat) (h : Holds w bits) (hroom : bits.length < 8 * f.capacity) :
    ∃ w', putBit f value w = .ok ((), w') ∧ Holds w' (bits ++ [value.testBit 0]) := by
  obtain ⟨pad,hpad,hdata,hlength⟩ := h.length
  have hcount := h.1
  unfold putBit
  rw [if_neg (by omega)]
  refine ⟨_,rfl,by rw [hcount,length_append]; rfl,?_⟩
  -- The data with room for one more bit.
  obtain ⟨data,pad',hpad',hsplit,hbytes⟩ : ∃ data, ∃ pad' < 8,
      (if w.bitCount % 8 = 0 then w.data ++ [0] else w.data) = data ∧
        ofBytes data = bits ++ false :: List.replicate pad' false := by
    split
    · have hzero : pad = 0 := by omega
      have hnew : ofBytes [0] = false :: List.replicate 7 false := by decide
      exact ⟨_,7,by decide,rfl,by simp [ofBytes_append,hdata,hzero,hnew]⟩
    · obtain ⟨pad',rfl⟩ := Nat.exists_eq_succ_of_ne_zero (n := pad) (by omega)
      exact ⟨_,pad',by omega,rfl,hdata⟩
  have hroom' : bits.length < 8 * data.length := by
    rw [← length_ofBytes,hbytes,length_append]
    exact Nat.lt_add_of_pos_right (Nat.succ_pos _)
  rw [hsplit,hcount]
  refine ⟨pad',hpad',?_⟩
  rcases Nat.mod_two_eq_zero_or_one value with heven | hodd
  · have hbit : value.testBit 0 = false := by simp [heven]
    rw [heven,hbit,Nat.zero_shiftLeft]
    have hsame : (fun byte : UInt8 => byte ||| UInt8.ofNat 0) = id := by
      funext byte
      exact UInt8.or_zero
    rw [hsame,List.modify_id,hbytes,append_assoc]
    rfl
  · have hbit : value.testBit 0 = true := by simp [hodd]
    rw [hodd,hbit,ofBytes_modify data hroom',hbytes,set_append_right _ _ (Nat.le_refl _),
      Nat.sub_self,append_assoc]
    rfl
variable (f) in
/-- As long as there is room the program adds these bits. -/
def Writes (m : Put) (bits : List Bool) : Prop :=
  ∀ w before, Holds w before → before.length + bits.length ≤ 8 * f.capacity →
    ∃ w', m w = .ok ((), w') ∧ Holds w' (before ++ bits)

theorem Writes.pure : Writes f (Pure.pure ()) [] := by
  intro w before h _
  rw [append_nil]
  exact ⟨w,rfl,h⟩

theorem Writes.bind {m m' : Put} (h : Writes f m bits) (h' : Writes f m' bits') :
    Writes f (m >>= fun _ => m') (bits ++ bits') := by
  intro w before hw hroom
  rw [length_append] at hroom
  obtain ⟨w1,hrun1,hw1⟩ := h w before hw (by omega)
  obtain ⟨w2,hrun2,hw2⟩ := h' w1 (before ++ bits) hw1 (by rw [length_append]; omega)
  refine ⟨w2,?_,by rwa [append_assoc] at hw2⟩
  change (m w).bind (fun r => m' r.2) = _
  rw [hrun1]
  exact hrun2

theorem Writes.bit (value : Nat) : Writes f (putBit f value) [value.testBit 0] :=
  fun _ _ hw hroom => putBit_holds value hw hroom

theorem Writes.zeros (count : Nat) : Writes f (putZeros f count) (List.replicate count false) := by
  induction count with
  | zero => exact Writes.pure
  | succ count ih => exact (Writes.bit 0).bind ih

theorem Writes.bitsFrom (value count : Nat) :
    Writes f (putBitsFrom f value count) (ofNat count value) := by
  induction count with
  | zero => exact Writes.pure
  | succ count ih =>
    have hbit : (value >>> count).testBit 0 = value.testBit count := by
      rw [Nat.testBit_shiftRight,Nat.add_zero]
    have hwrite := (Writes.bit (f := f) (value >>> count)).bind ih
    rw [hbit] at hwrite
    exact hwrite

theorem Writes.ofNat {value count : Nat} (hcount : count ≤ f.word) (hvalue : value < 2 ^ f.word) :
    Writes f (putBits f value count) (ofNat count value) := by
  rw [putBits,if_neg (Nat.not_lt.mpr hcount),Nat.mod_eq_of_lt hvalue]
  exact Writes.bitsFrom value count

theorem Writes.ue {value : Nat} (hvalue : value + 1 < 2 ^ f.word) :
    Writes f (putUe f value) (ue value) :=
  (Writes.zeros _).bind (Writes.ofNat (Nat.size_le.mpr hvalue) hvalue)

theorem Writes.se {value : Int} (hcode : signedCode value ≤ 0xffffffff)
    (hvalue : signedCode value + 1 < 2 ^ f.word) : Writes f (putSe f value) (se value) := by
  have heq : (if value ≤ 0 then value.natAbs * 2 else value.natAbs * 2 - 1) = signedCode value := by
    unfold signedCode
    split <;> omega
  unfold putSe
  rw [heq,if_neg (Nat.not_lt.mpr hcode)]
  exact Writes.ue hvalue

theorem alignZeros_holds {rounds : Nat} (h : Holds w bits) (hrounds : (8 - bits.length % 8) % 8 ≤ rounds)
    (hroom : bits.length + (8 - bits.length % 8) % 8 ≤ 8 * f.capacity) :
    ∃ w', alignZeros f rounds w = .ok ((), w') ∧
    Holds w' (bits ++ List.replicate ((8 - bits.length % 8) % 8) false) := by
  induction rounds generalizing w bits with
  | zero =>
    rw [Nat.le_zero.mp hrounds,replicate_zero,append_nil]
    exact ⟨w,rfl,h⟩
  | succ rounds ih =>
    unfold alignZeros
    rw [h.1]
    split
    · rename_i haligned
      rw [haligned,replicate_zero,append_nil]
      exact ⟨w,rfl,h⟩
    · obtain ⟨w1,hrun1,hw1⟩ := @putBit_holds f w bits 0 h (by omega)
      have hlength : (bits ++ [Nat.testBit 0 0]).length = bits.length + 1 := by simp
      have hpad : (8 - bits.length % 8) % 8 = (8 - (bits.length + 1) % 8) % 8 + 1 := by omega
      obtain ⟨w2,hrun2,hw2⟩ := ih hw1 (by omega) (by omega)
      refine ⟨w2,?_,?_⟩
      · change (putBit f 0 w).bind (fun r => alignZeros f rounds r.2) = _
        rw [hrun1]
        exact hrun2
      · rw [hlength,append_assoc] at hw2
        rw [hpad]
        exact hw2

theorem finishRbsp_holds (h : Holds w bits) (hroom : bits.length + 8 ≤ 8 * f.capacity) :
    ∃ w', finishRbsp f w = .ok ((), w') ∧ ∃ zeros < 8, w'.bitCount = 8 * w'.data.length ∧
    ofBytes w'.data = bits ++ trailing zeros := by
  obtain ⟨w1,hrun1,hw1⟩ := putBit_holds 1 h (f := f) (by omega)
  have hlength : (bits ++ [Nat.testBit 1 0]).length = bits.length + 1 := by simp
  obtain ⟨w2,hrun2,hw2⟩ := @alignZeros_holds f w1 _ 7 hw1 (by omega) (by omega)
  rw [hlength] at hw2
  have hdata := hw2.aligned (by simp only [length_append,length_replicate,hlength]; omega)
  refine ⟨w2,?_,(8 - (bits.length + 1) % 8) % 8,by omega,?_,?_⟩
  · change (putBit f 1 w).bind (fun r => alignZeros f 7 r.2) = _
    rw [hrun1]
    exact hrun2
  · rw [hw2.1,← hdata,length_ofBytes]
  · rw [hdata,append_assoc]
    rfl

theorem pushByte_ok {output : List UInt8} (byte : UInt8) (h : output.length < f.capacity) :
    pushByte f output byte = .ok (output ++ [byte]) := if_neg (Nat.not_le.mpr h)

theorem appendEscaped_ok {output payload : List UInt8} {zeros : Nat}
    (h : output.length + (escape zeros payload).length ≤ f.capacity) :
    appendEscaped f output zeros payload = .ok (output ++ escape zeros payload) := by
  induction payload generalizing output zeros with
  | nil =>
    rw [escape,append_nil]
    rfl
  | cons byte rest ih =>
    rw [escape] at h ⊢
    rw [appendEscaped]
    split
    · rename_i hescape
      rw [if_pos hescape,length_cons,length_cons] at h
      rw [pushByte_ok 3 (by omega)]
      change (pushByte f (output ++ [3]) byte).bind _ = _
      rw [pushByte_ok byte (by simp only [length_append,length_singleton]; omega)]
      refine (ih (by simp only [length_append,length_singleton]; omega)).trans ?_
      rw [append_assoc,append_assoc]
      rfl
    · rename_i hplain
      rw [if_neg hplain,length_cons] at h
      rw [pushByte_ok byte (by omega)]
      refine (ih (by simp only [length_append,length_singleton]; omega)).trans ?_
      rw [append_assoc]
      rfl

theorem appendAnnexbNal_ok {output header : List UInt8} (haligned : w.bitCount = 8 * w.data.length)
    (hroom : output.length + (4 + header.length) + 2 * w.data.length ≤ f.capacity) :
    appendAnnexbNal f output header w = .ok (output ++ framed (header ++ escape 0 w.data)) := by
  have hescape := length_escape_le 0 w.data
  have htake : w.data.take (w.bitCount / 8) = w.data := by
    rw [haligned,Nat.mul_div_cancel_left _ (by decide),take_length]
  rw [appendAnnexbNal,if_neg (by omega),if_neg (by omega),htake,appendEscaped_ok]
  · rw [append_assoc]
    rfl
  · simp only [length_append,framed,length_cons]
    omega
variable (f) in
/-- What the program writes, at most `n` bits, the parser reads back as this value. -/
def Codes (n : Nat) (m : Put) (parser : Parser α) (a : α) : Prop :=
  ∃ bits, bits.length ≤ n ∧ Writes f m bits ∧ Reads parser bits a

section
variable {n n' : Nat} {m m' : Put} {parser : Parser α} {next : α → Parser β} {a : α} {b : β}
theorem Codes.bind (h : Codes f n' m parser a) (hn : n'.ble n = true)
    (h' : Codes f (n - n') m' (next a) b) :
    Codes f n (m >>= fun _ => m') (parser >>= next) b := by
  have hn := Nat.le_of_ble_eq_true hn
  obtain ⟨bits,hlength,hwrite,hread⟩ := h
  obtain ⟨bits',hlength',hwrite',hread'⟩ := h'
  exact ⟨bits ++ bits',by rw [length_append]; omega,hwrite.bind hwrite',hread.bind hread'⟩

theorem Codes.last (h : Codes f n' m parser a) (hn : n'.ble n = true)
    (h' : Reads (next a) [] b) : Codes f n m (parser >>= next) b := by
  obtain ⟨bits,hlength,hwrite,hread⟩ := h
  exact ⟨bits,Nat.le_trans hlength (Nat.le_of_ble_eq_true hn),hwrite,(hread.bind h').cast (append_nil bits) rfl⟩

theorem Codes.mono (h : Codes f n' m parser a) (hn : n' ≤ n) : Codes f n m parser a := by
  obtain ⟨bits,hlength,hcodes⟩ := h
  exact ⟨bits,Nat.le_trans hlength hn,hcodes⟩

theorem Codes.nothing {p : Parser β} {b : β} {next : β → Parser α} (hp : Reads p [] b)
    (h : Codes f n m (next b) a) : Codes f n m (p >>= next) a := by
  obtain ⟨bits,hlength,hwrite,hread⟩ := h
  exact ⟨bits,hlength,hwrite,hp.bind hread⟩

theorem Codes.skip {c : Prop} [Decidable c] {p : Parser β} {next : Option β → Parser α}
    (hc : ¬ c) (h : Codes f n m (next none) a) : Codes f n m (readIf c p >>= next) a :=
  Codes.nothing (Reads.absent hc) h

theorem Codes.present {c : Prop} [Decidable c] (hc : c) (h : Codes f n m parser a) :
    Codes f n m (readIf c parser) (some a) := by
  obtain ⟨bits,hlength,hwrite,hread⟩ := h
  exact ⟨bits,hlength,hwrite,hread.present hc⟩

theorem Codes.when {c d : Prop} [Decidable c] [Decidable d] (hcd : d ↔ c)
    (h : c → Codes f n m parser a) :
    Codes f n (putWhen c m) (readIf d parser) (if c then some a else none) := by
  unfold putWhen
  split
  · rename_i hc
    exact (h hc).present (hcd.mpr hc)
  · rename_i hc
    exact ⟨[],Nat.zero_le n,Writes.pure,Reads.absent fun hd => hc (hcd.mp hd)⟩
end

theorem Codes.bit (value : Nat) : Codes f 1 (putBit f value) readBit (value.testBit 0) :=
  ⟨[value.testBit 0],Nat.le_refl 1,Writes.bit value,Reads.bit _⟩

theorem Codes.ofNat {value count : Nat} (hcount : count ≤ f.word) (hvalue : value < 2 ^ count) :
    Codes f count (putBits f value count) (readBits count) value := by
  have hword : value < 2 ^ f.word :=
    Nat.lt_of_lt_of_le hvalue (Nat.pow_le_pow_right (by decide) hcount)
  exact ⟨_,Nat.le_of_eq (length_ofNat count value),Writes.ofNat hcount hword,
    (Reads.ofNat count value).cast rfl (Nat.mod_eq_of_lt hvalue)⟩

theorem Codes.ue {value : Nat} (h : value + 1 < 2 ^ 32) :
    Codes f 63 (putUe f value) readUe value :=
  ⟨_,length_ue_le h,Writes.ue (Nat.lt_of_lt_of_le h (Nat.pow_le_pow_right (by decide) f.wide)),
    Reads.ue value⟩

theorem Codes.zeroUe : Codes f 63 (putUe f 0) readUe 0 := .ue (by decide)
theorem Codes.ue8 (value : UInt8) : Codes f 63 (putUe f value.toNat) readUe value.toNat :=
  Codes.ue (by have := value.toNat_lt; omega)
theorem Codes.ue16 (value : UInt16) : Codes f 63 (putUe f value.toNat) readUe value.toNat :=
  Codes.ue (by have := value.toNat_lt; omega)

theorem Codes.se8 (value : Int8) : Codes f 63 (putSe f value.toInt) readSe value.toInt := by
  have hlow := value.le_toInt
  have hhigh := value.toInt_lt
  have hcode : signedCode value.toInt + 1 < 2 ^ 32 := by
    unfold signedCode
    split <;> omega
  exact ⟨_,length_ue_le hcode,Writes.se (by omega) (Nat.lt_of_lt_of_le hcode
    (Nat.pow_le_pow_right (by decide) f.wide)),Reads.se _⟩

theorem Codes.each (l : List UInt16) :
    Codes f (63 * l.length) (putEach f l) (readMany readUe l.length) (l.map UInt16.toNat) := by
  induction l with
  | nil => exact ⟨[],Nat.le_refl 0,Writes.pure,Reads.pure []⟩
  | cons value rest ih =>
    refine (Codes.ue16 value).bind (Nat.ble_eq_true_of_le (by rw [length_cons]; omega)) ?_
    exact ih.last (Nat.ble_eq_true_of_le (by rw [length_cons]; omega)) (Reads.pure _)

def coded (flag : UInt8) : Bool := flag.toNat.testBit 0
theorem Codes.flag (flag : UInt8) : Codes f 1 (putBit f flag.toNat) readBit (coded flag) :=
  Codes.bit flag.toNat
theorem Codes.zero : Codes f 1 (putBit f 0) readBit false := .bit 0
theorem Codes.one : Codes f 1 (putBit f 1) readBit true := .bit 1

theorem Codes.bool (b : Bool) : Codes f 1 (putBit f b.toNat) readBit b := by
  cases b
  · exact .zero
  · exact .one

theorem binary_cases {flag : UInt8} (h : flag ≤ 1) : flag = 0 ∨ flag = 1 := by
  have hle : flag.toNat ≤ 1 := UInt8.le_iff_toNat_le.mp h
  rcases Nat.le_one_iff_eq_zero_or_eq_one.mp hle with hflag | hflag
  · exact .inl (UInt8.toNat_inj.mp hflag)
  · exact .inr (UInt8.toNat_inj.mp hflag)

theorem coded_iff {flag : UInt8} (h : flag ≤ 1) : coded flag = true ↔ flag ≠ 0 := by
  rcases binary_cases h with rfl | rfl <;> decide

theorem present_toNat {flag : UInt8} {a : α} (h : flag ≤ 1) :
    (if flag ≠ 0 then some a else none).isSome.toNat = flag.toNat := by
  rcases binary_cases h with rfl | rfl <;> rfl

theorem coded_toNat {flag : UInt8} (h : flag ≤ 1) : (coded flag).toNat = flag.toNat := by
  rcases binary_cases h with rfl | rfl <;> rfl
variable (f) in
/-- The program writes at most `n` bits. -/
def Fits (n : Nat) (m : Put) : Prop := ∃ bits, bits.length ≤ n ∧ Writes f m bits

section
variable {n n' : Nat} {m m' : Put}
theorem Codes.fits {parser : Parser α} {a : α} (h : Codes f n m parser a) : Fits f n m := by
  obtain ⟨bits,hlength,hwrite, -⟩ := h
  exact ⟨bits,hlength,hwrite⟩

theorem Fits.bind (h : Fits f n' m) (hn : n'.ble n = true) (h' : Fits f (n - n') m') :
    Fits f n (m >>= fun _ => m') := by
  have hn := Nat.le_of_ble_eq_true hn
  obtain ⟨bits,hlength,hwrite⟩ := h
  obtain ⟨bits',hlength',hwrite'⟩ := h'
  exact ⟨bits ++ bits',by rw [length_append]; omega,hwrite.bind hwrite'⟩

theorem Fits.mono (h : Fits f n' m) (hn : n' ≤ n) : Fits f n m := by
  obtain ⟨bits,hlength,hwrite⟩ := h
  exact ⟨bits,Nat.le_trans hlength hn,hwrite⟩

theorem Fits.when {c : Prop} [Decidable c] (h : Fits f n m) : Fits f n (putWhen c m) := by
  unfold putWhen
  split
  · exact h
  · exact ⟨[],Nat.zero_le n,Writes.pure⟩
end

/-- A finished payload of at most `n` bits, without those from the stop bit on. -/
structure Finished (n : Nat) (w : BitWriter) : Prop where
  aligned : w.bitCount = 8 * w.data.length
  size : 8 * w.data.length ≤ n + 8

theorem Writes.finish {m : Put} {n : Nat} (h : Writes f m bits) (hlength : bits.length ≤ n)
    (hroom : n + 8 ≤ 8 * f.capacity) :
    ∃ w, rbsp f m = .ok w ∧ Finished n w ∧ ∃ zeros < 8, ofBytes w.data = bits ++ trailing zeros := by
  obtain ⟨w1,hrun1,hw1⟩ := h .empty [] Holds.empty (by simp only [length_nil]; omega)
  obtain ⟨w2,hrun2,zeros,hzeros,haligned,hdata⟩ :=
    finishRbsp_holds (f := f) hw1 (by rw [nil_append]; omega)
  rw [nil_append] at hdata
  have hrun : rbsp f m = .ok w2 := by
    change ((m BitWriter.empty).bind fun r => finishRbsp f r.2).map _ = _
    rw [hrun1]
    exact congrArg (Except.map Prod.snd) hrun2
  have hsize := congrArg List.length hdata
  simp only [length_ofBytes,length_append,trailing,length_cons,length_replicate] at hsize
  exact ⟨w2,hrun,⟨haligned,by omega⟩,zeros,hzeros,hdata⟩

theorem Fits.finish {m : Put} {n : Nat} (h : Fits f n m) (hroom : n + 8 ≤ 8 * f.capacity) :
    ∃ w, rbsp f m = .ok w ∧ Finished n w := by
  obtain ⟨bits,hlength,hwrite⟩ := h
  obtain ⟨w,hrun,hfinished, -⟩ := hwrite.finish hlength hroom
  exact ⟨w,hrun,hfinished⟩

theorem Finished.append {n : Nat} (h : Finished n w) (output header : List UInt8)
    (hroom : 4 * output.length + 4 * (4 + header.length) + (n + 8) ≤ 4 * f.capacity) :
    appendAnnexbNal f output header w = .ok (output ++ framed (header ++ escape 0 w.data)) := by
  have := h.size
  exact appendAnnexbNal_ok h.aligned (by omega)

theorem Finished.length_framed {n : Nat} (h : Finished n w) (header : List UInt8) :
    4 * (framed (header ++ escape 0 w.data)).length ≤ 4 * (4 + header.length) + (n + 8) := by
  have := h.size
  have := length_escape_le 0 w.data
  simp only [framed,length_cons,length_append]
  omega

structure Payload (parser : Parser α) (a : α) (w : BitWriter) : Prop where
  delimited : ∀ header : List UInt8, (∀ byte ∈ header, byte ≠ 0) →
    Delimited (header ++ escape 0 w.data)
  decoded : ∀ header : List UInt8,
    decodeUnit header.length parser (header ++ escape 0 w.data) = some (header, a)

theorem Codes.payload {n : Nat} {m : Put} {fields : Parser β} {parser : Parser α} {b : β} {a : α}
    (h : Codes f n m fields b) (hroom : n + 8 ≤ 8 * f.capacity)
    (hparser : ∀ bits zeros, zeros < 8 → Reads fields bits b →
      parser (bits ++ trailing zeros) = some (a, trailing zeros)) :
    ∃ w, rbsp f m = .ok w ∧ Finished n w ∧ Payload parser a w := by
  obtain ⟨bits,hlength,hwrite,hread⟩ := h
  obtain ⟨w,hrun,hfinished,zeros,hzeros,hdata⟩ := hwrite.finish hlength hroom
  exact ⟨w,hrun,hfinished,
    { delimited := fun _ hheader => delimited_escape hheader (getLast_ne_zero hzeros hdata)
      decoded := fun _ => decodeUnit_escape hzeros (hdata ▸ hparser bits zeros hzeros hread) }⟩
end

theorem cropping_exact {coded visible : UInt32} (hle : ¬ visible > coded)
    (heven : (coded - visible) % 2 = 0) :
    2 * ((coded - visible) / 2).toNat + visible.toNat = coded.toNat := by
  have hle' : visible.toNat ≤ coded.toNat := UInt32.le_iff_toNat_le.mp (UInt32.not_lt.mp hle)
  have hmod := congrArg UInt32.toNat heven
  rw [UInt32.toNat_mod,UInt32.toNat_sub_of_le _ _ (UInt32.not_lt.mp hle)] at hmod
  rw [UInt32.toNat_div,UInt32.toNat_sub_of_le _ _ (UInt32.not_lt.mp hle)]
  change _ % 2 = 0 at hmod
  change 2 * (_ / 2) + _ = _
  omega

@[simp] theorem ok_bind (a : α) (next : α → Except Errno β) : (Except.ok a >>= next) = next a := rfl
end LinDeX.Bitstream
