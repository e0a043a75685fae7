import LinDeX.Bitstream.Av1

/-!
# Annex B units become the same OBUs

The OBUs that the Annex B parser goes through are written one behind another with size fields. The
raw parser reads the same OBUs there and observes the same.
-/
namespace LinDeX.Av1
open Buffer List
variable {ε α β : Type}
theorem bind_eq_ok {x : Except ε α} {f : α → Except ε β} {b : β} :
    (x >>= f) = .ok b ↔ ∃ a, x = .ok a ∧ f a = .ok b := by
  cases x with
  | error e => exact ⟨nofun,nofun⟩
  | ok a => exact ⟨fun h => ⟨a,rfl,h⟩,fun ⟨_,ha,h⟩ => by cases ha; exact h⟩

theorem check_eq_ok {c : Prop} [Decidable c] {e : ε} {x : Except ε α} {a : α} :
    (if c then .error e else x) = .ok a ↔ ¬c ∧ x = .ok a := by
  by_cases h : c <;> simp [h]

def Element.header (e : Element) : UInt8 :=
  (e.type <<< 3) ||| (if e.extension.isSome then 4 else 0) ||| 2
def Element.headerSize (e : Element) : Nat := 1 + e.extension.toList.length
def Element.encode (e : Element) : List UInt8 :=
  e.header :: (e.extension.toList ++ (writeLeb128 e.payload.length ++ e.payload))

def Element.obu (e : Element) (offset : Nat) : Obu :=
  { header := e.header
    type := e.type
    extension := if e.extension.isSome then 1 else 0
    headerSize := e.headerSize
    payloadOffset := offset + (e.headerSize + leb128Size e.payload.length)
    payloadSize := e.payload.length }

/-- The OBUs that `parse_obu` accepts. -/
structure Element.Plain (e : Element) : Prop where
  type : e.type.toNat < 16
  extension : e.extension = none ∨ e.extension = some 0
  payload : e.payload.length < 128 ^ 8

theorem Element.encode_length (e : Element) :
    e.encode.length = e.headerSize + leb128Size e.payload.length + e.payload.length := by
  simp only [Element.encode,Element.headerSize,length_cons,length_append,writeLeb128,
    leb128Size,Leb128.length_encode]
  omega

theorem Element.encode_eq (e : Element) :
    e.encode = (e.header :: e.extension.toList) ++ (writeLeb128 e.payload.length ++ e.payload) := by
  rw [cons_append]
  rfl

theorem header_of_type : ∀ t < 16, ∀ extended : Bool,
    let header : UInt8 := (UInt8.ofNat t <<< 3) ||| (if extended then 4 else 0) ||| 2
    header &&& 0x81 = 0 ∧ header &&& 2 ≠ 0 ∧ typeOf header = UInt8.ofNat t ∧
      extensionOf header = if extended then 1 else 0 := by
  decide +kernel

theorem Element.Plain.header {e : Element} (h : e.Plain) :
    e.header &&& 0x81 = 0 ∧ e.header &&& 2 ≠ 0 ∧ typeOf e.header = e.type ∧
    extensionOf e.header = if e.extension.isSome then 1 else 0 := by
  have hspec := header_of_type e.type.toNat h.type e.extension.isSome
  rw [UInt8.ofNat_toNat] at hspec
  exact hspec

theorem header_or_two : ∀ n < 256, UInt8.ofNat n &&& 0x81 = 0 → UInt8.ofNat n ||| 2 = Element.header
      ⟨typeOf (UInt8.ofNat n),if extensionOf (UInt8.ofNat n) ≠ 0 then some 0 else none,[]⟩ ∧
      (typeOf (UInt8.ofNat n)).toNat < 16 := by
  decide +kernel

theorem readLeb128_write {value : Nat} (rest : List UInt8) (hvalue : value < 128 ^ 8) :
    readLeb128 (writeLeb128 value ++ rest) = .ok (leb128Size value, value) := by
  have hwide : value < 128 ^ 10 := Nat.lt_trans hvalue (by decide)
  have hsize : (Leb128.encode 10 value).length ≤ 8 := by
    rw [Leb128.length_encode]
    exact Leb128.size_le (by decide) hvalue
  have hread := @Leb128.read_encode 10 value 8 0 0 rest hwide (by decide) hsize (by decide)
  rw [readLeb128,writeLeb128,hread,Leb128.length_encode,leb128Size]
  simp

theorem readLeb128_ok {data : List UInt8} {n value : Nat} (h : readLeb128 data = .ok (n, value)) :
    n ≠ 0 ∧ n ≤ 8 ∧ n ≤ data.length ∧ value < 128 ^ n := by
  rw [readLeb128] at h
  split at h
  · rename_i r hr
    cases h
    obtain ⟨hpos,hmax,hlength,hvalue⟩ := Leb128.read_bounds hr (by decide)
    exact ⟨by omega,by omega,by omega,hvalue⟩
  · cases h

/-- The writer's code is the shortest that the reader accepts, and the reader needs no byte but the
first eight below `size`. -/
theorem leb128_shortest (value : Nat) (hvalue : value < 2 ^ 56) :
    (writeLeb128 value).length = leb128Size value ∧
    (∀ rest, readLeb128 (writeLeb128 value ++ rest) = .ok (leb128Size value, value)) ∧
    (∀ data n, readLeb128 data = .ok (n, value) → leb128Size value ≤ n) ∧
    ∀ data memory, (∀ i < min data.length 8, memory i = data[i]?) →
      readLeb128Read memory data.length = some (readLeb128 data) := by
  refine ⟨Leb128.length_encode 10 value,fun rest => readLeb128_write rest hvalue,?_,?_⟩
  · intro data n h
    obtain ⟨hpos, -, -,hbound⟩ := readLeb128_ok h
    exact Leb128.size_le hpos hbound
  · intro data memory h
    have hread := @Leb128.readAt_eq memory 8 0 data (by simpa using h) 0
    rw [Nat.zero_add] at hread
    rw [readLeb128Read,hread,readLeb128]
    cases Leb128.read 8 0 0 data <;> rfl

theorem leb128_shortest_threeHundred : (300 : Nat) < 2 ^ 56 ∧
    readLeb128 [0xac,0x02,0xff] = .ok (2, 300) ∧ readLeb128 [0xac,0x82,0x00] = .ok (3, 300) ∧
    leb128Size 300 ≤ 3 :=
  ⟨by decide,(leb128_shortest 300 (by decide)).2.1 [0xff],by decide,
    (leb128_shortest 300 (by decide)).2.2.1 [0xac,0x82,0x00] 3 (by decide)⟩

theorem payloadField_encode {e : Element} (h : e.Plain) (annexB : Bool) :
    payloadField e.encode e.headerSize true annexB =
      .ok (e.headerSize + leb128Size e.payload.length, e.payload.length) := by
  have hlength := e.encode_length
  have hdrop : e.encode.drop e.headerSize = writeLeb128 e.payload.length ++ e.payload := by
    rw [Element.encode_eq,drop_left' (by simp [Element.headerSize,Nat.add_comm])]
  rw [payloadField,if_pos rfl,hdrop,readLeb128_write _ h.payload]
  exact if_neg (by omega)

theorem parseObu_encode {e : Element} (h : e.Plain) {offset : Nat}
    (hroom : offset + e.encode.length ≤ sizeMax) :
    parseObu e.encode offset false = .ok (e.obu offset) := by
  obtain ⟨hreserved,hsize,htype,hextension⟩ := h.header
  have hlength := e.encode_length
  have hfield := payloadField_encode h false
  have hheader : (if extensionOf e.header ≠ 0 then 2 else 1) = e.headerSize := by
    rw [hextension,Element.headerSize]
    cases e.extension <;> rfl
  have hbyte : ¬(extensionOf e.header ≠ 0 ∧ e.encode.tail = []) := by
    rw [hextension,Element.encode,List.tail_cons]
    cases e.extension <;> simp
  have hzero : ¬(extensionOf e.header ≠ 0 ∧ e.encode.tail.head? ≠ some 0) := by
    rw [hextension,Element.encode,List.tail_cons]
    rcases h.extension with hnone | hsome
    · simp [hnone]
    · simp [hsome]
  have hoffset : ¬(sizeMax - (e.headerSize + leb128Size e.payload.length) < offset) := by omega
  have hflag : (e.header &&& 2 != 0) = true := by simpa using hsize
  change (if e.header &&& 0x81 ≠ 0 then _ else _) = _
  rw [if_neg (not_not.mpr hreserved)]
  change (if extensionOf e.header ≠ 0 ∧ e.encode.tail = [] then _ else _) = _
  rw [if_neg hbyte]
  change (if extensionOf e.header ≠ 0 ∧ e.encode.tail.head? ≠ some 0 then _ else _) = _
  rw [if_neg hzero]
  change payloadField e.encode (if extensionOf e.header ≠ 0 then 2 else 1) (e.header &&& 2 != 0)
    false >>= _ = _
  rw [hheader,hflag,hfield]
  change (if sizeMax - (e.headerSize + leb128Size e.payload.length) < offset then _ else _) = _
  rw [if_neg hoffset,htype,hextension]
  rfl

/-- What `parse_obu` says about the bytes of an OBU. -/
structure Accepted (data : List UInt8) (offset : Nat) (obu : Obu) (cursor : Nat) : Prop where
  header : data.head? = some obu.header
  reserved : obu.header &&& 0x81 = 0
  type : obu.type = typeOf obu.header
  headerSize : obu.headerSize = if extensionOf obu.header ≠ 0 then 2 else 1
  extension : extensionOf obu.header ≠ 0 → data[1]? = some 0
  payloadOffset : obu.payloadOffset = offset + cursor
  payloadSize : cursor + obu.payloadSize = data.length
  field : cursor = obu.headerSize ∨ leb128Size obu.payloadSize + obu.headerSize ≤ cursor

theorem payloadField_ok {data : List UInt8} {headerSize cursor payloadSize : Nat}
    {hasSize annexB : Bool} (hheader : headerSize ≤ data.length)
    (h : payloadField data headerSize hasSize annexB = .ok (cursor, payloadSize)) :
    cursor + payloadSize = data.length ∧
    (cursor = headerSize ∨ leb128Size payloadSize + headerSize ≤ cursor) := by
  unfold payloadField at h
  split at h
  · obtain ⟨⟨fieldSize,size⟩,hread,h⟩ := bind_eq_ok.mp h
    obtain ⟨hrest,h⟩ := check_eq_ok.mp h
    cases h
    obtain ⟨hpos, -,hlength,hvalue⟩ := readLeb128_ok hread
    have hsize : leb128Size payloadSize ≤ fieldSize := Leb128.size_le hpos hvalue
    exact ⟨by omega,.inr (by omega)⟩
  · obtain ⟨-,h⟩ := check_eq_ok.mp h
    cases h
    exact ⟨by omega,.inl rfl⟩

theorem parseObu_ok {data : List UInt8} {offset : Nat} {annexB : Bool} {obu : Obu}
    (h : parseObu data offset annexB = .ok obu) : ∃ cursor, Accepted data offset obu cursor := by
  cases data with
  | nil => cases h
  | cons header rest =>
    obtain ⟨hreserved,h⟩ := check_eq_ok.mp h
    obtain ⟨hbyte,h⟩ := check_eq_ok.mp h
    obtain ⟨hzero,h⟩ := check_eq_ok.mp h
    obtain ⟨⟨cursor,payloadSize⟩,hfield,h⟩ := bind_eq_ok.mp h
    obtain ⟨-,h⟩ := check_eq_ok.mp h
    cases h
    have hheader : (if extensionOf header ≠ 0 then 2 else 1) ≤ (header :: rest).length := by
      split
      · rename_i hextension
        have hrest : rest ≠ [] := fun hnil => hbyte ⟨hextension,hnil⟩
        have := length_pos_iff.mpr hrest
        rw [length_cons]
        omega
      · rw [length_cons]
        omega
    obtain ⟨hsize,hfield⟩ := payloadField_ok hheader hfield
    refine ⟨cursor,rfl,not_not.mp hreserved,rfl,rfl,fun hextension => ?_,rfl,hsize,hfield⟩
    rw [List.getElem?_cons_succ,← List.head?_eq_getElem?]
    exact not_not.mp fun hne => hzero ⟨hextension,hne⟩

structure Agrees (data out : List UInt8) (s t : State) : Prop where
  observed : s.toObserved = t.toObserved
  payloads : s.payloads.map (Span.bytes data) = t.payloads.map (Span.bytes out)

section Observe
variable {data out payload : List UInt8} {picture : Picture} {s s' t : State} {obu obu' : Obu}
theorem Agrees.payloads_length (h : Agrees data out s s') :
    s'.payloads.length = s.payloads.length := by
  simpa using (congrArg List.length h.payloads).symm

theorem observeType_agrees (h : Agrees data out s s') (htype : obu'.type = obu.type)
    (hsize : obu'.payloadSize = obu.payloadSize) (hspan : obu.span.bytes data = obu'.span.bytes out)
    (hok : observeType picture s obu payload = .ok t) :
    ∃ t', observeType picture s' obu' payload = .ok t' ∧ Agrees data out t t' := by
  have hlength := h.payloads_length
  obtain ⟨observed,payloads⟩ := s
  obtain ⟨observed',payloads'⟩ := s'
  obtain ⟨rfl,hpayloads⟩ := h
  unfold observeType at hok ⊢
  rw [htype,hsize]
  split at hok
  case h_2 =>
    obtain ⟨hseen,hok⟩ := check_eq_ok.mp hok
    cases hok
    exact ⟨_,if_neg hseen,rfl,hpayloads⟩
  case h_1 | h_3 =>
    obtain ⟨hseen,hok⟩ := check_eq_ok.mp hok
    obtain ⟨u,hu,hok⟩ := bind_eq_ok.mp hok
    cases hok
    exact ⟨_,(if_neg hseen).trans (bind_eq_ok.mpr ⟨u,hu,rfl⟩),rfl,hpayloads⟩
  case h_4 =>
    obtain ⟨hseen,hok⟩ := check_eq_ok.mp hok
    cases hok
    rw [← hlength] at hseen
    refine ⟨_,if_neg hseen,rfl,?_⟩
    rw [map_append,map_append,hpayloads,map_singleton,map_singleton,hspan]
  case h_5 =>
    obtain ⟨hseen,hok⟩ := check_eq_ok.mp hok
    obtain ⟨u,hu,hok⟩ := bind_eq_ok.mp hok
    cases hok
    refine ⟨_,(if_neg hseen).trans (bind_eq_ok.mpr ⟨u,hu,rfl⟩),rfl,?_⟩
    rw [map_singleton,map_singleton,hspan]
  case h_6 =>
    obtain ⟨hseen,hok⟩ := check_eq_ok.mp hok
    cases hok
    exact ⟨_,if_neg hseen,rfl,hpayloads⟩
  case h_7 =>
    cases hok
    exact ⟨_,rfl,rfl,hpayloads⟩
  case h_8 => cases hok

theorem observeObu_agrees (h : Agrees data out s s') (htype : obu'.type = obu.type)
    (hsize : obu'.payloadSize = obu.payloadSize) (hspan : obu.span.bytes data = obu'.span.bytes out)
    (hok : observeObu picture s obu payload = .ok t) :
    ∃ t', observeObu picture s' obu' payload = .ok t' ∧ Agrees data out t t' := by
  obtain ⟨hmax,hok⟩ := check_eq_ok.mp hok
  have hcount : s'.obuCount = s.obuCount := (congrArg Observed.obuCount h.observed).symm
  have hnext : Agrees data out { s with obuCount := s.obuCount + 1 }
      { s' with obuCount := s'.obuCount + 1 } :=
    ⟨by rw [h.observed],h.payloads⟩
  obtain ⟨t',ht',hagrees⟩ := observeType_agrees hnext htype hsize hspan hok
  exact ⟨t',(if_neg (by rwa [hcount])).trans ht',hagrees⟩

theorem finishParse_agrees (h : Agrees data out s s') : finishParse s' = finishParse s := by
  rw [finishParse,finishParse,h.payloads_length,h.observed]
end Observe

/-- The OBU that the Annex B parser finds in a unit of the data is one that the raw parser takes,
with the header that is emitted for it. -/
theorem Accepted.element {data start : List UInt8} {offset cursor obuSize : Nat} {obu : Obu}
    (h : Accepted (start.take obuSize) offset obu cursor) (hstart : start = data.drop offset)
    (hsize : obuSize ≤ start.length) (hbound : obuSize < 128 ^ 8) :
    (obu.element data start).Plain ∧ (obu.element data start).header = obu.header ||| 2 ∧
    (obu.element data start).headerSize = obu.headerSize ∧
    (obu.element data start).payload.length = obu.payloadSize := by
  have hextension : (obu.element data start).extension =
      if extensionOf obu.header ≠ 0 then some 0 else none := by
    rw [Obu.element,h.headerSize]
    by_cases hx : extensionOf obu.header ≠ 0
    · have hbyte := h.extension hx
      rw [List.getElem?_take] at hbyte
      split at hbyte
      · rw [if_pos hx,if_pos rfl,if_pos hx]
        exact hbyte
      · cases hbyte
    · rw [if_neg hx,if_neg (by decide),if_neg hx]
  have hunit : cursor + obu.payloadSize = obuSize := by
    rw [h.payloadSize,length_take]
    omega
  have hpayload : (obu.element data start).payload.length = obu.payloadSize := by
    change ((data.drop obu.payloadOffset).take _).length = _
    rw [hstart,length_drop] at hsize
    rw [length_take,length_drop,Obu.span,h.payloadOffset]
    dsimp only
    omega
  obtain ⟨hheader,htype⟩ := header_or_two obu.header.toNat obu.header.toNat_lt
    (by rw [UInt8.ofNat_toNat]; exact h.reserved)
  rw [UInt8.ofNat_toNat,← hextension,← h.type] at hheader
  rw [UInt8.ofNat_toNat,← h.type] at htype
  refine ⟨⟨htype,?_,by omega⟩,hheader.symm,?_,hpayload⟩
  · rw [hextension]
    split
    · exact .inr rfl
    · exact .inl rfl
  · rw [Element.headerSize,hextension,h.headerSize]
    split <;> rfl

theorem obuWrites_fills {e : Element} {obu : Obu} {start : List UInt8} (outSize : Nat)
    (hheader : e.header = obu.header ||| 2) (hheaderSize : e.headerSize = obu.headerSize)
    (hextension : ∀ byte, e.extension = some byte → start[1]? = some byte)
    (hpayload : e.payload.length = obu.payloadSize) :
    Fills (obuWrites outSize obu start e.payload) outSize e.encode := by
  have hfront : Fills ([⟨outSize,[obu.header ||| 2]⟩] ++
      (if obu.headerSize = 2 then [⟨outSize + 1,[start.getD 1 0]⟩] else [])) outSize
      (e.header :: e.extension.toList) := by
    rw [← hheaderSize,Element.headerSize,hheader]
    cases hx : e.extension with
    | none => exact Fills.single outSize [obu.header ||| 2]
    | some byte =>
      have hbyte : start.getD 1 0 = byte := by
        rw [List.getD_eq_getElem?_getD,hextension byte hx]
        rfl
      rw [hbyte]
      exact (Fills.single outSize [obu.header ||| 2]).append (Fills.single (outSize + 1) [byte])
  have hlength : (e.header :: e.extension.toList).length = obu.headerSize := by
    rw [← hheaderSize,Element.headerSize,length_cons,Nat.add_comm]
  have hsize : (writeLeb128 e.payload.length).length = leb128Size obu.payloadSize := by
    rw [writeLeb128,leb128Size,Leb128.length_encode,hpayload]
  rw [Element.encode_eq,obuWrites]
  apply hfront.append
  rw [hlength,← hpayload]
  apply (Fills.single _ _).append
  rw [hsize,hpayload]
  exact Fills.single _ _

theorem addSize_ok {left right size : Nat} (h : addSize left right = .ok size) :
    size = left + right := by
  obtain ⟨-,h⟩ := check_eq_ok.mp h
  cases h
  rfl

theorem normalizedObuSize_ok {obu : Obu} {size : Nat} (h : normalizedObuSize obu = .ok size) :
    size = obu.headerSize + leb128Size obu.payloadSize + obu.payloadSize := by
  obtain ⟨fields,hfields,h⟩ := bind_eq_ok.mp h
  rw [addSize_ok h,addSize_ok hfields]

/-- A round of the Annex B loop: the OBU `e` is observed and written, and `next` is what the rest of
the loop comes up with. -/
structure Round (picture : Picture) (data : List UInt8) (output : Option Nat)
    (fuel cursor outSize : Nat) (s : State) (r : Normalized) (e : Element) (obu : Obu)
    (cursor' : Nat) (t : State) (next : Normalized) : Prop where
  plain : e.Plain
  type : obu.type = e.type
  payloadSize : obu.payloadSize = e.payload.length
  payload : obu.span.bytes data = e.payload
  observed : observeObu picture s obu e.payload = .ok t
  rest : annexLoop picture data output fuel cursor' (outSize + e.encode.length) t = .ok next
  size : cursor + e.encode.length ≤ cursor' ∧ cursor' ≤ data.length
  room : ∀ capacity ∈ output, outSize + e.encode.length ≤ capacity
  elements : r.elements = e :: next.elements
  writes : ∃ writes, Fills writes outSize e.encode ∧
    r.writes = (if output.isSome then writes else []) ++ next.writes
  result : r.state = next.state ∧ r.size = next.size

section Annex
variable {picture : Picture} {data : List UInt8} {output : Option Nat} {fuel cursor outSize : Nat}
  {s : State} {r : Normalized}

theorem annexLoop_cases (h : annexLoop picture data output fuel cursor outSize s = .ok r) :
    (data.length ≤ cursor ∧ r = ⟨s,outSize,[],[]⟩) ∨
    ∃ fuel' e obu cursor' t next, fuel = fuel' + 1 ∧
    Round picture data output fuel' cursor outSize s r e obu cursor' t next := by
  unfold annexLoop at h
  split at h
  · rename_i hend
    cases h
    exact .inl ⟨hend,rfl⟩
  · cases fuel with
    | zero => cases h
    | succ fuel =>
      obtain ⟨⟨lengthField,obuSize⟩,hread,h⟩ := bind_eq_ok.mp h
      obtain ⟨hlengths,h⟩ := check_eq_ok.mp h
      obtain ⟨obu,hobu,h⟩ := bind_eq_ok.mp h
      obtain ⟨t,hobserved,h⟩ := bind_eq_ok.mp h
      obtain ⟨size,hsize,h⟩ := bind_eq_ok.mp h
      obtain ⟨-,h⟩ := check_eq_ok.mp h
      obtain ⟨hroom,h⟩ := check_eq_ok.mp h
      obtain ⟨next,hnext,h⟩ := bind_eq_ok.mp h
      cases h
      have hsize : size = obu.headerSize + leb128Size obu.payloadSize + obu.payloadSize := by
        cases hn : normalizedObuSize obu with
        | error _ =>
          rw [hn] at hsize
          cases hsize
        | ok n =>
          rw [hn] at hsize
          cases hsize
          exact normalizedObuSize_ok hn
      obtain ⟨hfield,height,hfieldLength,hvalue⟩ := readLeb128_ok hread
      have hbound : obuSize < 128 ^ 8 :=
        Nat.lt_of_lt_of_le hvalue (Nat.pow_le_pow_right (by decide) height)
      rw [length_drop] at hlengths
      have hstart : obuSize ≤ (data.drop (cursor + lengthField)).length := by
        rw [length_drop]
        omega
      obtain ⟨place,hobu⟩ := parseObu_ok hobu
      obtain ⟨hplain,hheader,hheaderSize,hpayload⟩ := hobu.element rfl hstart hbound
      have hencode := (obu.element data (data.drop (cursor + lengthField))).encode_length
      rw [hheaderSize,hpayload,← hsize] at hencode
      -- a size field that is added is not longer than the length field that is dropped
      have hunit := hobu.payloadSize
      rw [length_take] at hunit
      have hshort : leb128Size obu.payloadSize ≤ lengthField ∨
          leb128Size obu.payloadSize + obu.headerSize ≤ place := by
        rcases hobu.field with hplace | hplace
        · exact .inl (Leb128.size_le hfield (by omega))
        · exact .inr hplace
      have hplace : obu.headerSize ≤ place := by
        rcases hobu.field with hplace | hplace <;> omega
      refine .inr ⟨fuel,obu.element data (data.drop (cursor + lengthField)),obu,
        cursor + lengthField + obuSize,t,next,rfl,hplain,rfl,hpayload.symm,rfl,hobserved,
        ?_,⟨by omega,by omega⟩,?_,rfl,?_,rfl,rfl⟩
      · rw [hencode]
        exact hnext
      · rintro capacity rfl
        simp only [Option.any_some,Bool.or_eq_true,decide_eq_true_eq,not_or] at hroom
        omega
      · refine ⟨_,obuWrites_fills outSize hheader hheaderSize ?_ hpayload,rfl⟩
        intro byte hbyte
        rw [Obu.element] at hbyte
        split at hbyte
        · exact hbyte
        · cases hbyte

theorem annexLoop_induction {P : Nat → Nat → State → Normalized → Prop}
    (hdone : ∀ cursor outSize s, P cursor outSize s ⟨s,outSize,[],[]⟩)
    (hround : ∀ {fuel cursor outSize s r e obu cursor' t next},
      Round picture data output fuel cursor outSize s r e obu cursor' t next →
      P cursor' (outSize + e.encode.length) t next → P cursor outSize s r)
    (h : annexLoop picture data output fuel cursor outSize s = .ok r) : P cursor outSize s r := by
  induction fuel generalizing cursor outSize s r with
  | zero =>
    rcases annexLoop_cases h with ⟨-,rfl⟩ | ⟨_,_,_,_,_,_,hfuel, -⟩
    · exact hdone cursor outSize s
    · cases hfuel
  | succ fuel ih =>
    rcases annexLoop_cases h with ⟨-,rfl⟩ | ⟨fuel',e,obu,cursor',t,next,hfuel,round⟩
    · exact hdone cursor outSize s
    · obtain rfl := Nat.succ.inj hfuel
      exact hround round (ih round.rest)

def encodeAll (elements : List Element) : List UInt8 := (elements.map Element.encode).flatten

theorem encodeAll_cons (e : Element) (elements : List Element) :
    encodeAll (e :: elements) = e.encode ++ encodeAll elements := by
  rw [encodeAll,map_cons,List.flatten_cons]
  rfl

theorem annexLoop_writes {capacity : Nat}
    (h : annexLoop picture data (some capacity) fuel cursor outSize s = .ok r) :
    Fills r.writes outSize (encodeAll r.elements) := by
  refine annexLoop_induction (P := fun _ outSize _ r => Fills r.writes outSize
    (encodeAll r.elements)) (fun _ outSize _ => Fills.nil outSize) (fun round ih => ?_) h
  obtain ⟨writes,hwrites,heq⟩ := round.writes
  rw [heq,round.elements,encodeAll_cons]
  exact hwrites.append ih

theorem annexLoop_size (h : annexLoop picture data output fuel cursor outSize s = .ok r) :
    r.size = outSize + (encodeAll r.elements).length := by
  refine annexLoop_induction (P := fun _ outSize _ r => r.size = outSize +
    (encodeAll r.elements).length) (fun _ _ _ => rfl) (fun round ih => ?_) h
  rw [round.result.2,ih,round.elements,encodeAll_cons,length_append,Nat.add_assoc]

theorem annexLoop_size_le (h : annexLoop picture data output fuel cursor outSize s = .ok r)
    (hcursor : cursor ≤ data.length) : r.size + cursor ≤ outSize + data.length := by
  refine annexLoop_induction (P := fun cursor outSize _ r => cursor ≤ data.length →
    r.size + cursor ≤ outSize + data.length) (fun _ _ _ hend => Nat.add_le_add_left hend _)
    (fun round ih _ => ?_) h hcursor
  have hrest := ih round.size.2
  have hround := round.size.1
  rw [round.result.2]
  omega

theorem annexLoop_second {capacity : Nat} (hcapacity : r.size ≤ capacity)
    (h : annexLoop picture data none fuel cursor outSize s = .ok r) :
    ∃ writes, annexLoop picture data (some capacity) fuel cursor outSize s =
      .ok { r with writes := writes } := by
  induction fuel generalizing cursor outSize s r with
  | zero =>
    unfold annexLoop at h ⊢
    split at h
    · rename_i hend
      cases h
      exact ⟨[],if_pos hend⟩
    · cases h
  | succ fuel ih =>
    unfold annexLoop at h ⊢
    split at h
    · rename_i hend
      cases h
      exact ⟨[],if_pos hend⟩
    · rename_i hend
      obtain ⟨⟨lengthField,obuSize⟩,hread,h⟩ := bind_eq_ok.mp h
      obtain ⟨hlengths,h⟩ := check_eq_ok.mp h
      obtain ⟨obu,hobu,h⟩ := bind_eq_ok.mp h
      obtain ⟨t,hobserved,h⟩ := bind_eq_ok.mp h
      obtain ⟨size,hsize,h⟩ := bind_eq_ok.mp h
      obtain ⟨hlimit,h⟩ := check_eq_ok.mp h
      obtain ⟨-,h⟩ := check_eq_ok.mp h
      obtain ⟨next,hnext,h⟩ := bind_eq_ok.mp h
      cases h
      have hcapacity : next.size ≤ capacity := hcapacity
      obtain ⟨writes,hsecond⟩ := ih hcapacity hnext
      have hgrow := annexLoop_size hnext
      have hroom : ¬((some capacity).any fun capacity =>
          decide (capacity < outSize) || decide (capacity - outSize < size)) = true := by
        simp only [Option.any_some,Bool.or_eq_true,decide_eq_true_eq,not_or]
        omega
      exact ⟨_,(if_neg hend).trans <| bind_eq_ok.mpr ⟨_,hread,(if_neg hlengths).trans <|
        bind_eq_ok.mpr ⟨_,hobu,bind_eq_ok.mpr ⟨_,hobserved,bind_eq_ok.mpr ⟨_,hsize,
          (if_neg hlimit).trans <| (if_neg hroom).trans <|
            bind_eq_ok.mpr ⟨_,hsecond,rfl⟩⟩⟩⟩⟩⟩
end Annex

section Raw
variable {picture : Picture} {out rest : List UInt8} {e : Element} {offset : Nat}
theorem payload_encode (hdrop : out.drop offset = e.encode ++ rest) :
    (e.obu offset).span.bytes out = e.payload := by
  have hsplit : e.encode ++ rest =
      (e.header :: e.extension.toList ++ writeLeb128 e.payload.length) ++ (e.payload ++ rest) := by
    rw [Element.encode_eq]
    simp only [append_assoc]
  have hlength : (e.header :: e.extension.toList ++ writeLeb128 e.payload.length).length =
      e.headerSize + leb128Size e.payload.length := by
    rw [length_append,length_cons,writeLeb128,Leb128.length_encode,leb128Size,
      Element.headerSize,Nat.add_comm 1]
  rw [Span.bytes,Obu.span,Element.obu]
  rw [← drop_drop,hdrop,hsplit,drop_left' hlength,Nat.add_sub_cancel_left,take_left]

theorem rawLoop_encode {fuel : Nat} {s t u : State} {elements : List Element} (h : e.Plain)
    (hdrop : out.drop offset = e.encode ++ rest) (hmax : out.length ≤ sizeMax)
    (hobserved : observeObu picture s (e.obu offset) e.payload = .ok t)
    (hrest : rawLoop picture out fuel (offset + e.encode.length) t = .ok (u, elements)) :
    rawLoop picture out (fuel + 1) offset s = .ok (u, e :: elements) := by
  obtain ⟨-,hflag, -,hextension⟩ := h.header
  have hsize := e.encode_length
  have hpos : 0 < leb128Size e.payload.length := Leb128.size_pos 9 _
  have hlength : out.length - offset = e.encode.length + rest.length := by
    rw [← length_drop,hdrop,length_append]
  have hheader : 1 + (extensionOf e.header).toNat = e.headerSize := by
    rw [hextension,Element.headerSize]
    cases e.extension <;> rfl
  have hread : readLeb128 ((e.encode ++ rest).drop e.headerSize) =
      .ok (leb128Size e.payload.length, e.payload.length) := by
    have hfront : (e.header :: e.extension.toList).length = e.headerSize := by
      rw [length_cons,Element.headerSize,Nat.add_comm]
    rw [Element.encode_eq,append_assoc,drop_left' hfront,append_assoc,readLeb128_write _ h.payload]
  have hfields : addSize e.headerSize (leb128Size e.payload.length) =
      .ok (e.headerSize + leb128Size e.payload.length) := if_neg (by omega)
  have hobuSize : addSize (e.headerSize + leb128Size e.payload.length) e.payload.length =
      .ok e.encode.length := by
    rw [hsize]
    exact if_neg (by omega)
  have hparse : parseObu ((e.encode ++ rest).take e.encode.length) offset false =
      .ok (e.obu offset) := by
    rw [take_left]
    exact parseObu_encode h (by omega)
  have helement : (e.obu offset).element out (e.encode ++ rest) = e := by
    have hbyte : (if e.headerSize = 2 then (e.encode ++ rest)[1]? else none) = e.extension := by
      rw [Element.headerSize,Element.encode]
      cases e.extension <;> rfl
    rw [Obu.element,Obu.payload,payload_encode hdrop]
    change (⟨e.type,if e.headerSize = 2 then (e.encode ++ rest)[1]? else none,e.payload⟩ :
      Element) = e
    rw [hbyte]
  have hpayload : (e.obu offset).payload out = e.payload := payload_encode hdrop
  have hfirst : (e.encode ++ rest).headD 0 = e.header := rfl
  rw [rawLoop,if_neg (by omega)]
  dsimp only
  rw [hdrop,hfirst,hheader,length_append,if_neg (by simp only [hflag,or_false]; omega)]
  exact bind_eq_ok.mpr ⟨_,hread,bind_eq_ok.mpr ⟨_,hfields,bind_eq_ok.mpr ⟨_,hobuSize,
    (if_neg (by omega)).trans <| bind_eq_ok.mpr ⟨_,hparse,bind_eq_ok.mpr ⟨_,
      by rw [hpayload]; exact hobserved,bind_eq_ok.mpr ⟨_,hrest,by rw [helement]; rfl⟩⟩⟩⟩⟩⟩
end Raw

theorem rawLoop_of_annexLoop {picture : Picture} {data out : List UInt8} {output : Option Nat}
    {fuel cursor outSize : Nat} {s : State} {r : Normalized}
    (h : annexLoop picture data output fuel cursor outSize s = .ok r) (hmax : out.length ≤ sizeMax)
    (hdrop : out.drop outSize = encodeAll r.elements) {left : Nat} {s' : State}
    (hleft : r.elements.length ≤ left) (hagrees : Agrees data out s s') :
    ∃ t', rawLoop picture out left outSize s' = .ok (t', r.elements) ∧
    Agrees data out r.state t' := by
  refine annexLoop_induction (P := fun _ outSize s r => out.drop outSize = encodeAll r.elements →
    ∀ left s', r.elements.length ≤ left → Agrees data out s s' →
      ∃ t', rawLoop picture out left outSize s' = .ok (t', r.elements) ∧
        Agrees data out r.state t') ?_ ?_ h hdrop left s' hleft hagrees
  · intro cursor outSize s hdrop left s' _ hagrees
    have hend : out.length ≤ outSize := drop_eq_nil_iff.mp hdrop
    refine ⟨s',?_,hagrees⟩
    unfold rawLoop
    exact if_pos hend
  · intro fuel cursor outSize s r e obu cursor' t next round ih hdrop left s' hleft hagrees
    rw [round.elements] at hleft hdrop ⊢
    rw [encodeAll_cons] at hdrop
    obtain ⟨left,rfl⟩ := Nat.exists_eq_succ_of_ne_zero (Nat.ne_zero_of_lt hleft)
    have hspan : obu.span.bytes data = (e.obu outSize).span.bytes out := by
      rw [round.payload,payload_encode hdrop]
    obtain ⟨u,hu,hagrees⟩ := observeObu_agrees hagrees round.type.symm round.payloadSize.symm
      hspan round.observed
    have hnext : out.drop (outSize + e.encode.length) = encodeAll next.elements := by
      rw [← drop_drop,hdrop,drop_left]
    obtain ⟨t',hraw,hend⟩ := ih hnext left u (Nat.le_of_succ_le_succ hleft) hagrees
    rw [round.result.1]
    exact ⟨t',rawLoop_encode round.plain hdrop hmax hu hraw,hend⟩

section Access
variable {picture : Picture} {data out : List UInt8} {output : Option Nat} {r : Normalized}
theorem parseAnnexB_ok (h : parseAnnexB picture data output = .ok r) :
    ∃ cursor ≤ data.length, annexLoop picture data output data.length cursor 0 State.empty = .ok r ∧
      finishParse r.state = .ok () := by
  unfold parseAnnexB at h
  split at h
  · cases h
  · rename_i tuField tuSize htu
    obtain ⟨-,h⟩ := check_eq_ok.mp h
    split at h
    · cases h
    · rename_i fuField fuSize hfu
      obtain ⟨-,h⟩ := check_eq_ok.mp h
      obtain ⟨r',hloop,h⟩ := bind_eq_ok.mp h
      obtain ⟨⟨⟩,hfinish,h⟩ := bind_eq_ok.mp h
      cases h
      obtain ⟨-, -,htuLength, -⟩ := Leb128.read_bounds htu (by decide)
      obtain ⟨-, -,hfuLength, -⟩ := Leb128.read_bounds hfu (by decide)
      rw [length_drop] at hfuLength
      exact ⟨tuField + fuField,by omega,hloop,hfinish⟩

theorem parseAnnexB_second (h : parseAnnexB picture data none = .ok r) :
    ∃ writes, parseAnnexB picture data (some r.size) = .ok { r with writes := writes } := by
  unfold parseAnnexB at h ⊢
  split at h
  · cases h
  · obtain ⟨htu,h⟩ := check_eq_ok.mp h
    rw [if_neg htu]
    split at h
    · cases h
    · obtain ⟨hfu,h⟩ := check_eq_ok.mp h
      obtain ⟨r',hloop,h⟩ := bind_eq_ok.mp h
      obtain ⟨⟨⟩,hfinish,h⟩ := bind_eq_ok.mp h
      cases h
      obtain ⟨writes,hsecond⟩ := annexLoop_second (Nat.le_refl _) hloop
      refine ⟨writes,?_⟩
      rw [if_neg hfu]
      exact bind_eq_ok.mpr ⟨_,hsecond,bind_eq_ok.mpr ⟨(),hfinish,rfl⟩⟩

theorem elements_length_le (elements : List Element) :
    elements.length ≤ (encodeAll elements).length := by
  induction elements with
  | nil => exact Nat.le_refl _
  | cons e elements ih =>
    have hsize := e.encode_length
    rw [Element.headerSize] at hsize
    rw [encodeAll_cons,length_append,length_cons]
    omega

theorem parseRawObus_of_parseAnnexB (h : parseAnnexB picture data output = .ok r)
    (hdata : data.length ≤ sizeMax) :
    ∃ t, parseRawObus picture (encodeAll r.elements) = .ok (t, r.elements) ∧
    Agrees data (encodeAll r.elements) r.state t := by
  obtain ⟨cursor,hcursor,hloop,hfinish⟩ := parseAnnexB_ok h
  have hsize := annexLoop_size hloop
  have hbound := annexLoop_size_le hloop hcursor
  have hempty : Agrees data (encodeAll r.elements) State.empty State.empty := ⟨rfl,rfl⟩
  have hmax : (encodeAll r.elements).length ≤ sizeMax := by omega
  obtain ⟨t,hraw,hagrees⟩ := rawLoop_of_annexLoop hloop hmax drop_zero
    (elements_length_le r.elements) hempty
  refine ⟨t,?_,hagrees⟩
  rw [← finishParse_agrees hagrees] at hfinish
  exact bind_eq_ok.mpr ⟨_,hraw,bind_eq_ok.mpr ⟨(),hfinish,rfl⟩⟩

section
variable {malloc : Option (Nat → UInt8)} {tiles : List Tile} {width height : UInt32}
  {unit : AccessUnit}
def EmittedAnnexB (picture : Picture) (data : List UInt8) (unit : AccessUnit) : Prop :=
  ∃ measured content r, parseAnnexB picture data none = .ok measured ∧
    parseAnnexB picture data (some measured.size) = .ok r ∧ unit.allocated = measured.size ∧
    unit.writes = r.writes ∧
    unit.bytes = (store (allocation content measured.size) r.writes).take r.size

variable (h : buildAccessUnit malloc picture tiles data width height = .ok unit)
include h
theorem buildAccessUnit_cases :
    data.length ≤ maxInputBytes.toNat ∧
    ((∃ r, parseRawObus picture data = .ok r) ∧ unit.info.inputFormat = .rawObu ∧
      unit.bytes = data ∨
    (∃ e, parseRawObus picture data = .error e) ∧ unit.info.inputFormat = .annexB ∧
      EmittedAnnexB picture data unit) := by
  obtain ⟨-,h⟩ := check_eq_ok.mp h
  obtain ⟨hmax,h⟩ := check_eq_ok.mp h
  obtain ⟨⟨⟩, -,h⟩ := bind_eq_ok.mp h
  refine ⟨Nat.le_of_not_lt hmax,?_⟩
  split at h
  · cases h
  · cases h
  · rename_i hraw _
    obtain ⟨⟨⟩, -,h⟩ := bind_eq_ok.mp h
    split at h
    · cases h
    · cases h
      refine .inl ⟨⟨_,hraw⟩,rfl,(Fills.single 0 data).whole ?_⟩
      rw [allocation,length_map,length_range]
  · rename_i measured hraw hmeasured
    obtain ⟨⟨⟩, -,h⟩ := bind_eq_ok.mp h
    split at h
    · cases h
    · obtain ⟨r,hr,h⟩ := bind_eq_ok.mp h
      cases h
      exact .inr ⟨⟨_,hraw⟩,rfl,measured,_,r,hmeasured,hr,rfl,rfl,rfl⟩

theorem buildAccessUnit_annexB (hformat : unit.info.inputFormat = .annexB) :
    data.length ≤ maxInputBytes.toNat ∧ EmittedAnnexB picture data unit := by
  obtain ⟨hmax,⟨-,hraw, -⟩ | ⟨-, -,hemitted⟩⟩ := buildAccessUnit_cases h
  · cases hraw.symm.trans hformat
  · exact ⟨hmax,hemitted⟩

theorem parseRawObus_emitted : ∃ r, parseRawObus picture unit.bytes = .ok r := by
  obtain ⟨hmax,⟨hraw, -,hbytes⟩ | ⟨-, -,measured,content,r,hmeasured,hr, -, -,hbytes⟩⟩ :=
    buildAccessUnit_cases h
  · rwa [hbytes]
  · obtain ⟨writes,hsecond⟩ := parseAnnexB_second hmeasured
    rw [hsecond] at hr
    cases hr
    obtain ⟨cursor, -,hloop, -⟩ := parseAnnexB_ok hsecond
    have hsize := annexLoop_size hloop
    have hfills : Fills writes 0 (encodeAll measured.elements) := annexLoop_writes hloop
    dsimp only at hsize hbytes
    rw [hfills.whole (by rw [allocation,length_map,length_range]; omega),
      take_of_length_le (by omega)] at hbytes
    obtain ⟨t,hraw, -⟩ := parseRawObus_of_parseAnnexB hmeasured (Nat.le_trans hmax (by decide))
    exact ⟨_,hbytes ▸ hraw⟩

/-- Normalisation is stable: what was emitted is raw, whatever format it came from, and is emitted
as it is if it is accepted again. -/
theorem buildAccessUnit_stable : (∃ r, parseRawObus picture unit.bytes = .ok r) ∧
    ∀ malloc' tiles' width' height' unit',
      buildAccessUnit malloc' picture tiles' unit.bytes width' height' = .ok unit' →
      unit'.info.inputFormat = .rawObu ∧ unit'.bytes = unit.bytes := by
  obtain ⟨r,hraw⟩ := parseRawObus_emitted h
  refine ⟨⟨r,hraw⟩,fun malloc' tiles' width' height' unit' h' => ?_⟩
  obtain ⟨-,⟨-,hstable⟩ | ⟨⟨e,herror⟩, -⟩⟩ := buildAccessUnit_cases h'
  · exact hstable
  · cases hraw.symm.trans herror
end

/-- What is emitted for a temporal unit in Annex B framing are the OBUs of that unit: the raw parser
reads the same OBUs and observes the same, the size is the one measured, every write stays inside
it, and it is not above that of the data. -/
theorem buildAccessUnit_normalises {malloc : Option (Nat → UInt8)} {tiles : List Tile}
    {expectedWidth expectedHeight : UInt32} {unit : AccessUnit}
    (h : buildAccessUnit malloc picture tiles data expectedWidth expectedHeight = .ok unit)
    (hformat : unit.info.inputFormat = .annexB) :
    ∃ measured t, parseAnnexB picture data none = .ok measured ∧
    parseRawObus picture unit.bytes = .ok (t, measured.elements) ∧
    Agrees data unit.bytes measured.state t ∧
    unit.bytes.length = measured.size ∧ unit.allocated = measured.size ∧
    measured.size ≤ data.length ∧ ∀ w ∈ unit.writes, w.offset + w.data.length ≤ measured.size := by
  obtain ⟨hmax,measured,content,r,hmeasured,hr,hallocated,hwrites,hbytes⟩ :=
    buildAccessUnit_annexB h hformat
  obtain ⟨writes,hsecond⟩ := parseAnnexB_second hmeasured
  rw [hsecond] at hr
  cases hr
  obtain ⟨cursor,hcursor,hloop, -⟩ := parseAnnexB_ok hsecond
  have hsize := annexLoop_size hloop
  have hbound := annexLoop_size_le hloop hcursor
  dsimp only at hsize hbound
  have hfills : Fills writes 0 (encodeAll measured.elements) := annexLoop_writes hloop
  have hout : unit.bytes = encodeAll measured.elements := by
    rw [hbytes,hfills.whole (by rw [allocation,length_map,length_range]; omega)]
    exact take_of_length_le (by dsimp only; omega)
  have hlimit : data.length ≤ sizeMax := Nat.le_trans hmax (by decide)
  obtain ⟨t,hraw,hagrees⟩ := parseRawObus_of_parseAnnexB hmeasured hlimit
  refine ⟨measured,t,hmeasured,?_⟩
  rw [hout]
  refine ⟨hraw,hagrees,by omega,hallocated,by omega,fun w hw => ?_⟩
  rw [hwrites] at hw
  have := (hfills.inside w hw).2
  omega

def keyFrame : Picture :=
  { profile := 0, bitDepthIdx := 0, monoChrome := 0, subsamplingX := 1, subsamplingY := 1
    stillPicture := 0, largeScaleTile := 0, frameType := 0, showFrame := 1, anchorFramesNum := 0
    frameWidthMinus1 := 63, frameHeightMinus1 := 63, tileCols := 1, tileRows := 1 }

/-- A temporal delimiter and a frame, the delimiter with an extension byte and the frame with a size
field that is longer than it has to be. -/
def keyFrameUnit : List UInt8 :=
  [12,11,2,0x14,0,7,0x32,0x83,0x80,0x00,0x10,0xaa,0xbb]

def keyFrameObus : List UInt8 := [0x16,0,0,0x32,3,0x10,0xaa,0xbb]

theorem buildAccessUnit_keyFrame :
    buildAccessUnit (some fun _ => 0xcc) keyFrame [⟨2,11,0,0,0⟩] keyFrameUnit 64 64 =
      .ok { bytes := keyFrameObus
            info := ⟨.annexB,0,true,false,2⟩
            allocated := 8
            writes := [⟨0,[0x16]⟩,⟨1,[0]⟩,⟨2,[0]⟩,⟨3,[]⟩,⟨3,[0x32]⟩,⟨4,[3]⟩,
              ⟨5,[0x10,0xaa,0xbb]⟩] } := by
  rfl

/-- The hypotheses are met by a small unit, which is emitted with the shortest size fields. -/
theorem buildAccessUnit_normalises_keyFrame :
    ∃ measured t, parseAnnexB keyFrame keyFrameUnit none = .ok measured ∧
    parseRawObus keyFrame [0x16,0,0,0x32,3,0x10,0xaa,0xbb] = .ok (t, measured.elements) ∧
    measured.size = 8 := by
  obtain ⟨measured,t,hmeasured,hraw, -,hlength, -⟩ :=
    buildAccessUnit_normalises buildAccessUnit_keyFrame rfl
  exact ⟨measured,t,hmeasured,hraw,hlength.symm⟩

/-- Emitted from Annex B framing, the unit is accepted again as it is. -/
theorem buildAccessUnit_stable_keyFrame :
    ∃ unit, buildAccessUnit (some fun _ => 0) keyFrame [⟨2,6,0,0,0⟩] keyFrameObus 64 64 = .ok unit ∧
    unit.info.inputFormat = .rawObu ∧ unit.bytes = keyFrameObus := by
  have hunit : buildAccessUnit (some fun _ => 0) keyFrame [⟨2,6,0,0,0⟩] keyFrameObus 64 64 =
      .ok ⟨keyFrameObus,⟨.rawObu,0,true,false,2⟩,8,[⟨0,keyFrameObus⟩]⟩ := by
    rfl
  exact ⟨_,hunit,(buildAccessUnit_stable buildAccessUnit_keyFrame).2 _ _ _ _ _ hunit⟩
end Access
end LinDeX.Av1
