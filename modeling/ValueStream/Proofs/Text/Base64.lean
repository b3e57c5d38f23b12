import Mathlib.Data.List.Basic
import ValueStream.Text.Base64

/-!
# Reading Base64 undoes writing it

Reading takes the written form of some bytes, gives these bytes, and takes nothing else
(`decode_eq_ok_iff`). A symbol stands for six bits and six bits have one symbol, so a quartet of
symbols and three bytes determine each other. At the end the bits left over are zero in what is
written and have to be zero in what is read, and this is why one or two bytes at the end have one
written form as well. The text is looked at as bytes; since all symbols are ASCII, no other text has
the bytes of a written form.
-/

namespace ValueStream.Text.Base64

/-! ## Symbols -/

theorem symbolValue_eq_some_iff {b : UInt8} {n : Nat} :
    symbolValue b = some n ↔ n < 64 ∧ symbol n = b := by
  have hall : ∀ m < 256, ∀ n ∈ symbolValue (UInt8.ofNat m), n < 64 ∧ symbol n = UInt8.ofNat m := by
    decide +kernel
  constructor
  · intro h
    have hb := hall b.toNat b.toNat_lt n
    rw [UInt8.ofNat_toNat] at hb
    exact hb h
  · rintro ⟨hn, rfl⟩
    exact symbolValue_symbol n hn

theorem toNat_symbol_lt (n : Nat) : (symbol n).toNat < 128 := by
  rw [symbol]
  split_ifs
  · rw [UInt8.toNat_ofNat']
    omega
  · rw [UInt8.toNat_ofNat']
    omega
  · rw [UInt8.toNat_ofNat']
    omega
  · decide
  · decide

theorem readSymbol_symbol {n : Nat} (h : n < 64) (position : Nat) :
    readSymbol position (symbol n) = .ok n := by
  rw [readSymbol, symbolValue_symbol n h]

theorem bind_readSymbol_eq_ok {α : Type} {position : Nat} {b : UInt8}
    {f : Nat → Except DecodeError α} {x : α} (h : readSymbol position b >>= f = .ok x) :
    ∃ n < 64, symbol n = b ∧ f n = .ok x := by
  rw [readSymbol] at h
  split at h
  · next n hn =>
    obtain ⟨hlt, hb⟩ := symbolValue_eq_some_iff.1 hn
    exact ⟨n, hlt, hb, h⟩
  · cases h

/-! ## The last places -/

/-- What is read at the end is symbols and then paddings. -/
theorem readTail_eq_ok {start : Nat} {bs : List UInt8} {t u : Tail}
    (h : readTail start bs t = .ok u) :
    ∃ ns count, (∀ n ∈ ns, n < 64) ∧ bs = ns.map symbol ++ List.replicate count padding ∧
      u.symbols = ns.reverse ++ t.symbols ∧ u.paddings = t.paddings + count ∧
      (0 < t.paddings → ns = []) := by
  fun_induction readTail start bs t with
  | case1 t =>
    obtain rfl := Except.ok.inj h
    exact ⟨[], 0, by simp⟩
  | case2 => cases h
  | case3 rest t place hplace ih =>
    obtain ⟨ns, count, -, rfl, hsymbols, hpaddings, hnil⟩ := ih h
    obtain rfl := hnil (Nat.succ_pos _)
    refine ⟨[], count + 1, by simp, by simp [List.replicate_succ], hsymbols, ?_, fun _ ↦ rfl⟩
    rw [hpaddings, Nat.add_assoc, Nat.add_comm 1]
  | case4 => cases h
  | case5 => cases h
  | case6 b rest t hb hpaddings n hn ih =>
    obtain ⟨ns, count, hns, rfl, hsymbols, hcount, -⟩ := ih h
    obtain ⟨hlt, rfl⟩ := symbolValue_eq_some_iff.1 hn
    refine ⟨n :: ns, count, ?_, rfl, by simp [hsymbols], hcount, by omega⟩
    intro m hm
    rcases List.mem_cons.1 hm with rfl | hm
    · exact hlt
    · exact hns m hm

theorem decodeFrom_of_length_le {bs : List UInt8} (h : bs.length ≤ 4) (start : Nat) :
    decodeFrom start bs = decodeTail start bs := by
  rw [decodeFrom]
  rintro a b c d e rest rfl
  simp only [List.length_cons] at h
  omega

section
variable {a b c d : Nat} (start : Nat) (ha : a < 64) (hb : b < 64)

include ha hb

theorem decodeTail_two :
    decodeTail start [symbol a, symbol b, padding, padding] =
      if (a * 64 + b) % 16 = 0 then .ok [UInt8.ofNat ((a * 64 + b) / 16)]
      else .error (.invalidLastSymbol (start + 1) (symbol b)) := by
  simp [decodeTail, readTail, symbolValue_symbol a ha, symbolValue_symbol b hb,
    symbol_ne_padding a ha, symbol_ne_padding b hb, bind, Except.bind]
  rfl

theorem decodeTail_three (hc : c < 64) :
    decodeTail start [symbol a, symbol b, symbol c, padding] =
      if ((a * 64 + b) * 64 + c) % 4 = 0 then
        .ok [UInt8.ofNat (((a * 64 + b) * 64 + c) / 1024),
          UInt8.ofNat (((a * 64 + b) * 64 + c) / 4 % 256)]
      else .error (.invalidLastSymbol (start + 2) (symbol c)) := by
  simp [decodeTail, readTail, symbolValue_symbol a ha, symbolValue_symbol b hb,
    symbolValue_symbol c hc, symbol_ne_padding a ha, symbol_ne_padding b hb,
    symbol_ne_padding c hc, bind, Except.bind]
  rfl

theorem decodeTail_four (hc : c < 64) (hd : d < 64) :
    decodeTail start [symbol a, symbol b, symbol c, symbol d] =
      .ok [UInt8.ofNat ((((a * 64 + b) * 64 + c) * 64 + d) / 65536),
        UInt8.ofNat ((((a * 64 + b) * 64 + c) * 64 + d) / 256 % 256),
        UInt8.ofNat ((((a * 64 + b) * 64 + c) * 64 + d) % 256)] := by
  simp [decodeTail, readTail, symbolValue_symbol a ha, symbolValue_symbol b hb,
    symbolValue_symbol c hc, symbolValue_symbol d hd, symbol_ne_padding a ha,
    symbol_ne_padding b hb, symbol_ne_padding c hc, symbol_ne_padding d hd, bind, Except.bind]
  rfl

end

/-- What the last places hold if they can be read: nothing, or two to four symbols and paddings up
to four places. -/
theorem exists_symbols_of_decodeTail {start : Nat} {bs bytes : List UInt8} (hlength : bs.length ≤ 4)
    (h : decodeTail start bs = .ok bytes) :
    ∃ ns count, (∀ n ∈ ns, n < 64) ∧ bs = ns.map symbol ++ List.replicate count padding ∧
      (ns = [] ∧ count = 0 ∨ 2 ≤ ns.length ∧ ns.length + count = 4) := by
  cases hread : readTail start bs ⟨[], 0, 0⟩ with
  | error e => simp [decodeTail, hread, bind, Except.bind] at h
  | ok u =>
    obtain ⟨ns, count, hns, rfl, hsymbols, hpaddings, -⟩ := readTail_eq_ok hread
    refine ⟨ns, count, hns, rfl, ?_⟩
    have hplaces : ns.length + count ≤ 4 := by simpa using hlength
    simp only [decodeTail, hread, hsymbols, hpaddings, bind, Except.bind] at h
    split at h
    · cases h
    · next hcount =>
      simp only [List.append_nil, Nat.zero_add, List.length_reverse] at hcount h
      split at h
      · cases h
      · next hfour =>
        by_cases hnil : ns = []
        · subst hnil
          exact .inl ⟨rfl, by simpa using hcount⟩
        · right
          simp [hnil] at hcount hfour
          omega

/-! ## Three bytes and four symbols -/

/-- The three bytes with so many bits. -/
def unpacked (n : Nat) : List UInt8 :=
  [UInt8.ofNat (n / 65536), UInt8.ofNat (n / 256 % 256), UInt8.ofNat (n % 256)]

section
variable {a b c d : Nat} (ha : a < 64) (hb : b < 64) (hc : c < 64) (hd : d < 64)

include ha hb hc hd

/-- A quartet of symbols is read as three bytes, at the end or not. -/
theorem decodeFrom_quartet (start : Nat) (rest : List UInt8) :
    decodeFrom start (symbol a :: symbol b :: symbol c :: symbol d :: rest) =
      (unpacked (((a * 64 + b) * 64 + c) * 64 + d) ++ ·) <$> decodeFrom (start + 4) rest := by
  cases rest with
  | nil =>
    rw [decodeFrom_of_length_le (by simp), decodeTail_four start ha hb hc hd]
    rfl
  | cons e rest =>
    rw [decodeFrom, readSymbol_symbol ha, readSymbol_symbol hb, readSymbol_symbol hc,
      readSymbol_symbol hd]
    rfl

theorem encodeBytes_unpacked (bytes : List UInt8) :
    encodeBytes (unpacked (((a * 64 + b) * 64 + c) * 64 + d) ++ bytes) =
      symbol a :: symbol b :: symbol c :: symbol d :: encodeBytes bytes := by
  generalize hn : ((a * 64 + b) * 64 + c) * 64 + d = n
  have hlt : n / 65536 < 256 ∧ n / 256 % 256 < 256 ∧ n % 256 < 256 := by omega
  have hpacked : (n / 65536 * 256 + n / 256 % 256) * 256 + n % 256 = n := by omega
  have hsymbols : n / 262144 = a ∧ n / 4096 % 64 = b ∧ n / 64 % 64 = c ∧ n % 64 = d := by omega
  simp only [unpacked, List.cons_append, List.nil_append, encodeBytes,
    UInt8.toNat_ofNat_of_lt' hlt.1, UInt8.toNat_ofNat_of_lt' hlt.2.1,
    UInt8.toNat_ofNat_of_lt' hlt.2.2, hpacked, hsymbols]

end

/-- Any three bytes are those of a quartet. -/
theorem exists_unpacked (x y z : UInt8) :
    ∃ a < 64, ∃ b < 64, ∃ c < 64, ∃ d < 64,
      [x, y, z] = unpacked (((a * 64 + b) * 64 + c) * 64 + d) := by
  have hx := x.toNat_lt
  have hy := y.toNat_lt
  have hz := z.toNat_lt
  generalize hn : (x.toNat * 256 + y.toNat) * 256 + z.toNat = n
  refine ⟨n / 262144, by omega, n / 4096 % 64, by omega, n / 64 % 64, by omega, n % 64, by omega,
    ?_⟩
  have hbits : ((n / 262144 * 64 + n / 4096 % 64) * 64 + n / 64 % 64) * 64 + n % 64 = n := by omega
  have hbytes : n / 65536 = x.toNat ∧ n / 256 % 256 = y.toNat ∧ n % 256 = z.toNat := by omega
  simp [unpacked, hbits, hbytes]

/-! ## One or two bytes at the end -/

section
variable {a b c : Nat} (ha : a < 64) (hb : b < 64)

include ha hb

theorem encodeBytes_of_two (h : (a * 64 + b) % 16 = 0) :
    encodeBytes [UInt8.ofNat ((a * 64 + b) / 16)] = [symbol a, symbol b, padding, padding] := by
  generalize hn : a * 64 + b = n at h
  have hbits : n / 16 * 16 = n := by omega
  have hsymbols : n / 64 = a ∧ n % 64 = b := by omega
  simp only [encodeBytes, UInt8.toNat_ofNat_of_lt' (show n / 16 < 256 by omega), hbits, hsymbols]

theorem encodeBytes_of_three (hc : c < 64) (h : ((a * 64 + b) * 64 + c) % 4 = 0) :
    encodeBytes [UInt8.ofNat (((a * 64 + b) * 64 + c) / 1024),
      UInt8.ofNat (((a * 64 + b) * 64 + c) / 4 % 256)] =
        [symbol a, symbol b, symbol c, padding] := by
  generalize hn : (a * 64 + b) * 64 + c = n at h
  have hlt : n / 1024 < 256 ∧ n / 4 % 256 < 256 := by omega
  have hbits : (n / 1024 * 256 + n / 4 % 256) * 4 = n := by omega
  have hsymbols : n / 4096 = a ∧ n / 64 % 64 = b ∧ n % 64 = c := by omega
  simp only [encodeBytes, UInt8.toNat_ofNat_of_lt' hlt.1, UInt8.toNat_ofNat_of_lt' hlt.2, hbits,
    hsymbols]

end

theorem decodeTail_one_byte (start : Nat) (x : UInt8) :
    decodeTail start (encodeBytes [x]) = .ok [x] := by
  have hx := x.toNat_lt
  generalize hn : x.toNat * 16 = n
  have hbits : n / 64 * 64 + n % 64 = n := by omega
  have hbyte : n / 16 = x.toNat := by omega
  simp only [encodeBytes, hn]
  rw [decodeTail_two start (by omega) (by omega), hbits, if_pos (by omega), hbyte,
    UInt8.ofNat_toNat]

theorem decodeTail_two_bytes (start : Nat) (x y : UInt8) :
    decodeTail start (encodeBytes [x, y]) = .ok [x, y] := by
  have hx := x.toNat_lt
  have hy := y.toNat_lt
  generalize hn : (x.toNat * 256 + y.toNat) * 4 = n
  have hbits : (n / 4096 * 64 + n / 64 % 64) * 64 + n % 64 = n := by omega
  have hbytes : n / 1024 = x.toNat ∧ n / 4 % 256 = y.toNat := by omega
  simp only [encodeBytes, hn]
  rw [decodeTail_three start (by omega) (by omega) (by omega), hbits, if_pos (by omega), hbytes.1,
    hbytes.2, UInt8.ofNat_toNat, UInt8.ofNat_toNat]

theorem encodeBytes_of_decodeTail {start : Nat} {bs bytes : List UInt8} (hlength : bs.length ≤ 4)
    (h : decodeTail start bs = .ok bytes) : encodeBytes bytes = bs := by
  obtain ⟨ns, count, hns, rfl, ⟨rfl, rfl⟩ | ⟨htwo, hfour⟩⟩ := exists_symbols_of_decodeTail hlength h
  · obtain rfl := Except.ok.inj h
    rfl
  · match ns, count, hfour with
    | [a, b], 2, _ =>
      have ha : a < 64 := hns a (by simp)
      have hb : b < 64 := hns b (by simp)
      have hread := (decodeTail_two start ha hb).symm.trans h
      split at hread
      · next hleft =>
        rw [← Except.ok.inj hread]
        exact encodeBytes_of_two ha hb hleft
      · cases hread
    | [a, b, c], 1, _ =>
      have ha : a < 64 := hns a (by simp)
      have hb : b < 64 := hns b (by simp)
      have hc : c < 64 := hns c (by simp)
      have hread := (decodeTail_three start ha hb hc).symm.trans h
      split at hread
      · next hleft =>
        rw [← Except.ok.inj hread]
        exact encodeBytes_of_three ha hb hc hleft
      · cases hread
    | [a, b, c, d], 0, _ =>
      have ha : a < 64 := hns a (by simp)
      have hb : b < 64 := hns b (by simp)
      have hc : c < 64 := hns c (by simp)
      have hd : d < 64 := hns d (by simp)
      have hread := (decodeTail_four start ha hb hc hd).symm.trans h
      rw [← Except.ok.inj hread]
      exact encodeBytes_unpacked ha hb hc hd []

/-! ## All bytes -/

theorem decodeFrom_encodeBytes (start : Nat) (bytes : List UInt8) :
    decodeFrom start (encodeBytes bytes) = .ok bytes := by
  match bytes with
  | x :: y :: z :: rest =>
    obtain ⟨a, ha, b, hb, c, hc, d, hd, hbytes⟩ := exists_unpacked x y z
    have hsplit : x :: y :: z :: rest = [x, y, z] ++ rest := rfl
    rw [hsplit, hbytes, encodeBytes_unpacked ha hb hc hd, decodeFrom_quartet ha hb hc hd,
      decodeFrom_encodeBytes (start + 4) rest]
    rfl
  | [x, y] =>
    rw [decodeFrom_of_length_le (by simp [encodeBytes]), decodeTail_two_bytes]
  | [x] =>
    rw [decodeFrom_of_length_le (by simp [encodeBytes]), decodeTail_one_byte]
  | [] => rfl

theorem encodeBytes_of_decodeFrom {start : Nat} {bs bytes : List UInt8}
    (h : decodeFrom start bs = .ok bytes) : encodeBytes bytes = bs := by
  fun_induction decodeFrom start bs generalizing bytes with
  | case1 start a b c d e rest ih =>
    obtain ⟨a, ha, rfl, hfrom_b⟩ := bind_readSymbol_eq_ok h
    obtain ⟨b, hb, rfl, hfrom_c⟩ := bind_readSymbol_eq_ok hfrom_b
    obtain ⟨c, hc, rfl, hfrom_d⟩ := bind_readSymbol_eq_ok hfrom_c
    obtain ⟨d, hd, rfl, hfrom_e⟩ := bind_readSymbol_eq_ok hfrom_d
    cases hrest : decodeFrom (start + 4) (e :: rest) with
    | error fault =>
      rw [hrest] at hfrom_e
      cases hfrom_e
    | ok others =>
      rw [hrest] at hfrom_e
      obtain rfl : unpacked (((a * 64 + b) * 64 + c) * 64 + d) ++ others = bytes :=
        Except.ok.inj hfrom_e
      rw [encodeBytes_unpacked ha hb hc hd, ih hrest]
  | case2 start bs hshort =>
    refine encodeBytes_of_decodeTail ?_ h
    match bs, hshort with
    | [], _ | [_], _ | [_, _], _ | [_, _, _], _ | [_, _, _, _], _ => simp
    | a :: b :: c :: d :: e :: rest, hshort => exact (hshort a b c d e rest rfl).elim

theorem length_encodeBytes_mod (bytes : List UInt8) : (encodeBytes bytes).length % 4 = 0 := by
  fun_induction encodeBytes bytes with
  | case1 a b c rest n ih =>
    simp only [List.length_cons]
    omega
  | case2 | case3 | case4 => simp

theorem decodeBytes_eq_ok_iff {bs bytes : List UInt8} :
    decodeBytes bs = .ok bytes ↔ bs = encodeBytes bytes := by
  rw [decodeBytes]
  constructor
  · intro h
    split at h
    · split at h
      · cases h
      · exact (encodeBytes_of_decodeFrom h).symm
    · next hnone =>
      rw [List.getLast?_eq_none_iff.1 hnone, ← Except.ok.inj h]
      rfl
  · rintro rfl
    split
    · have hlength := length_encodeBytes_mod bytes
      rw [if_neg (by omega)]
      exact decodeFrom_encodeBytes 0 bytes
    · next hnone =>
      have hread := decodeFrom_encodeBytes 0 bytes
      rw [List.getLast?_eq_none_iff.1 hnone] at hread
      exact hread

/-! ## Texts -/

private theorem toList_loop_eq (bs : ByteArray) (i : Nat) (front : List UInt8) :
    ByteArray.toList.loop bs i front = front.reverse ++ bs.data.toList.drop i := by
  fun_induction ByteArray.toList.loop bs i front with
  | case1 i front hi ih =>
    have hlength : i < bs.data.toList.length := by simpa using hi
    have hget : bs.get! i = bs.data.toList[i] := getElem!_pos bs.data i hi
    rw [ih, List.drop_eq_getElem_cons hlength, hget]
    simp
  | case2 i front hi =>
    have hlength : bs.data.toList.length ≤ i := by simpa using hi
    rw [List.drop_eq_nil_of_le hlength, List.append_nil]

theorem toList_eq_toList_data (bs : ByteArray) : bs.toList = bs.data.toList := by
  rw [ByteArray.toList, toList_loop_eq]
  rfl

/-- A text is known by its bytes. -/
theorem toList_toUTF8_inj {s t : String} : s.toUTF8.toList = t.toUTF8.toList ↔ s = t := by
  constructor
  · intro h
    rw [toList_eq_toList_data, toList_eq_toList_data, Array.toList_inj] at h
    exact String.toByteArray_inj.1 (ByteArray.ext h)
  · rintro rfl
    rfl

theorem utf8EncodeChar_ofNat :
    ∀ n < 128, String.utf8EncodeChar (Char.ofNat n) = [UInt8.ofNat n] := by decide +kernel

theorem toNat_lt_of_mem_encodeBytes {bytes : List UInt8} :
    ∀ b ∈ encodeBytes bytes, b.toNat < 128 := by
  fun_induction encodeBytes bytes with
  | case1 x y z rest n ih => simpa [toNat_symbol_lt] using ih
  | case2 x y n => simp [toNat_symbol_lt, padding]
  | case3 x n => simp [toNat_symbol_lt, padding]
  | case4 => simp

/-- The bytes of the written form are its symbols. -/
theorem toList_toUTF8_encode (bytes : List UInt8) :
    (encode bytes).toUTF8.toList = encodeBytes bytes := by
  have hchar : ∀ b ∈ encodeBytes bytes, String.utf8EncodeChar (Char.ofNat b.toNat) = [b] := by
    intro b hb
    rw [utf8EncodeChar_ofNat b.toNat (toNat_lt_of_mem_encodeBytes b hb), UInt8.ofNat_toNat]
  rw [toList_eq_toList_data, String.toUTF8_eq_toByteArray, encode, String.toByteArray_ofList,
    List.utf8Encode, List.toList_data_toByteArray, List.flatMap_map, List.flatMap_congr hchar]
  simp

/-- **Base64 is read from the written form of some bytes, as these bytes, and nothing else is.** -/
theorem decode_eq_ok_iff {s : String} {bytes : List UInt8} :
    decode s = .ok bytes ↔ s = encode bytes := by
  rw [decode, decodeBytes_eq_ok_iff, ← toList_toUTF8_encode, toList_toUTF8_inj]

end ValueStream.Text.Base64
