import SortableId.Payload.Accumulator
import SortableId.Proofs.ByteLayout
import SortableId.Proofs.Canonical
import SortableId.Proofs.Refusals

/-!
# Regrouping bits

At each instant of a pass, the written chunks and the pending bits together are the number of the
digits that were taken in.  The word forgets older bits, but those are in chunks already.  A pass
over a whole body therefore fills its output exactly and writes the numeral of the body in the other
base, which is what cutting and joining a word of 160 bits gives.
-/

namespace SortableId

namespace Accumulator

variable {taken width size : Nat} {acc later : Accumulator width size}
  {front : List (BitVec taken)}

/-- An accumulator at some instant of a pass, after the given digits.  A digit is taken in only when
the pending bits fill no chunk. -/
inductive Reached : List (BitVec taken) → Accumulator width size → Prop where
  | start : Reached [] {}
  | take {front : List (BitVec taken)} {acc : Accumulator width size} (digit : BitVec taken) :
      Reached front acc → acc.pending < width → Reached (front ++ [digit]) (acc.take digit)
  | write {front : List (BitVec taken)} {acc later : Accumulator width size} :
      Reached front acc → width ≤ acc.pending → acc.write? = some later → Reached front later

/-- An accumulator has all bits of the digits. -/
structure Accounts (front : List (BitVec taken)) (acc : Accumulator width size) : Prop where
  /-- The word is what is left of the digits in 32 bits. -/
  word : acc.word = Chunks.join 32 front
  pending_lt : acc.pending < width + taken
  bits : width * acc.written + acc.pending = taken * front.length
  /-- Every bit is in a chunk or still in the word. -/
  number : Chunks.number front =
    Chunks.number (acc.output.toList.take acc.written) * 2 ^ acc.pending +
      acc.word.toNat % 2 ^ acc.pending

/-! ## Writing one chunk -/

theorem write?_of_room (room : acc.written < size) (near : acc.pending - width < 32) :
    acc.write? = some { acc with
      pending := acc.pending - width
      output := acc.output.set acc.written ((acc.word >>> (acc.pending - width)).setWidth width)
      written := acc.written + 1 } :=
  dif_pos ⟨room, near⟩

theorem room_of_write? (wrote : acc.write? = some later) :
    acc.written < size ∧ acc.pending - width < 32 := by
  by_contra full
  have stuck : acc.write? = none := dif_neg full
  rw [stuck] at wrote
  contradiction

theorem take_toList_set {room : acc.written < size} (chunk : BitVec width) :
    (acc.output.set acc.written chunk).toList.take (acc.written + 1) =
      acc.output.toList.take acc.written ++ [chunk] := by
  have inBounds : acc.written < (acc.output.set acc.written chunk).toList.length := by
    rwa [Vector.length_toList]
  rw [List.take_succ_eq_append_getElem inBounds]
  simp [Vector.toList_set, List.take_set_of_le]

/-! ## Accounts at every instant -/

section Accounts

/-- Bits above the word are above those of a chunk within it. -/
theorem toNat_chunk (word_eq : acc.word = Chunks.join 32 front) {places : Nat}
    (within : places + width ≤ 32) :
    ((acc.word >>> places).setWidth width).toNat =
      Chunks.number front / 2 ^ places % 2 ^ width := by
  have parts : 32 = places + (32 - places) := by omega
  have low : 2 ^ width ∣ 2 ^ (32 - places) := Nat.pow_dvd_pow 2 (by omega)
  rw [BitVec.toNat_setWidth, BitVec.toNat_ushiftRight, Nat.shiftRight_eq_div_pow, word_eq,
    Chunks.toNat_join]
  nth_rewrite 1 [parts]
  rw [Nat.pow_add, Nat.mod_mul_right_div_self, Nat.mod_mod_of_dvd _ low]

/-- As long as the word has the pending bits, it is enough that the chunks write all others. -/
theorem Accounts.of_chunks (room : width + taken ≤ 33) (word : acc.word = Chunks.join 32 front)
    (pending_lt : acc.pending < width + taken)
    (bits : width * acc.written + acc.pending = taken * front.length)
    (chunks : Chunks.number (acc.output.toList.take acc.written) =
      Chunks.number front / 2 ^ acc.pending) : Accounts front acc where
  word
  pending_lt
  bits
  number := by
    have low : 2 ^ acc.pending ∣ 2 ^ 32 := Nat.pow_dvd_pow 2 (by omega)
    rw [chunks, word, Chunks.toNat_join, Nat.mod_mod_of_dvd _ low, Nat.div_add_mod']

theorem Accounts.chunks (accounts : Accounts front acc) :
    Chunks.number (acc.output.toList.take acc.written) =
      Chunks.number front / 2 ^ acc.pending := by
  rw [accounts.number, mul_add_div_of_lt (Nat.mod_lt _ (Nat.two_pow_pos _))]

theorem Accounts.take (room : width + taken ≤ 33) (accounts : Accounts front acc)
    (digit : BitVec taken) (settled : acc.pending < width) :
    Accounts (front ++ [digit]) (acc.take digit) := by
  apply Accounts.of_chunks room
  · rw [Chunks.join_concat, ← accounts.word]
    rfl
  · exact Nat.add_lt_add_right settled taken
  · have bits := accounts.bits
    simp only [Accumulator.take, List.length_append, List.length_singleton, Nat.mul_add,
      Nat.mul_one]
    omega
  · simp only [Accumulator.take, Chunks.number_concat]
    rw [accounts.chunks, Nat.add_comm acc.pending, Nat.pow_add, ← Nat.div_div_eq_div_mul,
      mul_add_div_of_lt digit.isLt]

theorem Accounts.write (room : width + taken ≤ 33) (accounts : Accounts front acc)
    (full : width ≤ acc.pending) (wrote : acc.write? = some later) : Accounts front later := by
  obtain ⟨written_lt, near⟩ := room_of_write? wrote
  have pending_lt := accounts.pending_lt
  rw [write?_of_room written_lt near] at wrote
  cases wrote
  apply Accounts.of_chunks room
  · exact accounts.word
  · exact Nat.lt_of_le_of_lt (Nat.sub_le _ _) pending_lt
  · have bits := accounts.bits
    simp only [Nat.mul_add, Nat.mul_one]
    omega
  · have parts : acc.pending = (acc.pending - width) + width := (Nat.sub_add_cancel full).symm
    have chunk := toNat_chunk accounts.word (Nat.le_trans (Nat.le_of_eq parts.symm) (by omega))
    simp only [take_toList_set, Chunks.number_concat, chunk, accounts.chunks]
    -- The chunk is the digit between the places that were and the places that are pending.
    nth_rewrite 1 [parts]
    rw [Nat.pow_add, ← Nat.div_div_eq_div_mul, Nat.div_add_mod']

/-- No instant of a pass has lost a bit that it needs. -/
theorem Reached.accounts [NeZero width] (room : width + taken ≤ 33) (reached : Reached front acc) :
    Accounts front acc := by
  induction reached with
  | start =>
      have positive := Nat.pos_of_neZero width
      exact Accounts.of_chunks room rfl (Nat.lt_add_right taken positive) rfl (Nat.zero_div _).symm
  | take digit _ settled ih => exact ih.take room digit settled
  | write _ full wrote ih => exact ih.write room full wrote

end Accounts

/-! ## Whole passes -/

/-- A way of writing chunks that finds room for them and leaves less than one pending, as long as
the digits fit into the output. -/
def Settles (taken : Nat) (settle? : Accumulator width size → Option (Accumulator width size)) :
    Prop :=
  ∀ (front : List (BitVec taken)) (acc : Accumulator width size), Reached front acc →
    taken * front.length ≤ width * size →
      ∃ later, settle? acc = some later ∧ Reached front later ∧ later.pending < width

section Settles

variable [NeZero width]

theorem writeAll?_of_lt (settled : acc.pending < width) : acc.writeAll? = some acc := by
  rw [writeAll?, dif_neg (Nat.not_le_of_lt settled)]

theorem writeAll?_of_write? (full : width ≤ acc.pending) (wrote : acc.write? = some later) :
    acc.writeAll? = later.writeAll? := by
  rw [writeAll?, dif_pos full]
  split
  · next stuck =>
      rw [stuck] at wrote
      contradiction
  · next other found =>
      rw [wrote] at found
      cases found
      rfl

theorem Accounts.exists_write? (room : width + taken ≤ 33) (accounts : Accounts front acc)
    (full : width ≤ acc.pending) (fits : taken * front.length ≤ width * size) :
    ∃ later, acc.write? = some later ∧ later.pending = acc.pending - width := by
  have positive := Nat.pos_of_neZero width
  have bits := accounts.bits
  have pending_lt := accounts.pending_lt
  have written_lt : acc.written < size := by
    apply Nat.lt_of_mul_lt_mul_left (a := width)
    omega
  exact ⟨_, write?_of_room written_lt (by omega), rfl⟩

/-- Every chunk that is full is written in turn. -/
theorem settles_writeAll? (room : width + taken ≤ 33) :
    Settles taken (writeAll? : Accumulator width size → Option (Accumulator width size)) := by
  intro front acc reached fits
  -- The induction follows the loop; the count of bits says that no write is stuck.
  induction acc using writeAll?.induct with
  | case1 acc full stuck =>
      obtain ⟨later, wrote, _⟩ := (reached.accounts room).exists_write? room full fits
      rw [stuck] at wrote
      contradiction
  | case2 acc full later wrote _ ih =>
      obtain ⟨last, done, lastReached, settled⟩ := ih (.write reached full wrote)
      exact ⟨last, (writeAll?_of_write? full wrote).trans done, lastReached, settled⟩
  | case3 acc settled =>
      have few := Nat.lt_of_not_le settled
      exact ⟨acc, writeAll?_of_lt few, reached, few⟩

/-- A digit that is no wider than a chunk completes at most one. -/
theorem settles_writeOne? (room : width + taken ≤ 33) (narrow : taken ≤ width) :
    Settles taken (writeOne? : Accumulator width size → Option (Accumulator width size)) := by
  intro front acc reached fits
  have accounts := reached.accounts room
  by_cases full : width ≤ acc.pending
  · have pending_lt := accounts.pending_lt
    obtain ⟨later, wrote, pending_eq⟩ := accounts.exists_write? room full fits
    exact ⟨later, (if_pos full).trans wrote, .write reached full wrote, by omega⟩
  · exact ⟨acc, if_neg full, reached, Nat.lt_of_not_le full⟩

variable {settle? : Accumulator width size → Option (Accumulator width size)}

theorem Settles.exists_feed? (settles : Settles taken settle?) {digits : List (BitVec taken)}
    (fits : taken * digits.length ≤ width * size) :
    ∃ acc, feed? settle? {} digits = some acc ∧ Reached digits acc ∧ acc.pending < width := by
  induction digits using List.reverseRecOn with
  | nil => exact ⟨{}, rfl, .start, Nat.pos_of_neZero width⟩
  | append_singleton front digit ih =>
      have shorter : taken * front.length ≤ width * size := by
        rw [List.length_append, Nat.mul_add] at fits
        exact Nat.le_trans (Nat.le_add_right _ _) fits
      obtain ⟨acc, fed, reached, settled⟩ := ih shorter
      obtain ⟨later, done, laterReached, laterSettled⟩ :=
        settles _ _ (.take digit reached settled) fits
      refine ⟨later, ?_, laterReached, laterSettled⟩
      rw [feed?] at fed
      rw [feed?, List.foldlM_append, fed]
      simp [done]

/-- Digits that fill the output leave no bits over and are the same numeral as the chunks. -/
theorem Settles.exists_filled (settles : Settles taken settle?) (room : width + taken ≤ 33)
    {digits : List (BitVec taken)} (full : taken * digits.length = width * size) :
    ∃ acc, feed? settle? {} digits = some acc ∧ acc.pending = 0 ∧ acc.written = size ∧
      Chunks.number acc.output.toList = Chunks.number digits := by
  obtain ⟨acc, fed, reached, settled⟩ := settles.exists_feed? (Nat.le_of_eq full)
  have accounts := reached.accounts room
  have bits := accounts.bits
  have none_pending : acc.pending = 0 := by
    -- Less than a chunk is pending, so it is the remainder of all bits by the width.
    have remainder := congrArg (· % width) (bits.trans full)
    simpa [Nat.mul_add_mod, Nat.mod_eq_of_lt settled] using remainder
  have all_written : acc.written = size := by
    rw [none_pending, Nat.add_zero, full] at bits
    exact Nat.eq_of_mul_eq_mul_left (Nat.pos_of_neZero width) bits
  have chunks := accounts.chunks
  rw [none_pending, Nat.pow_zero, Nat.div_one, all_written,
    List.take_of_length_le (Nat.le_of_eq acc.output.length_toList)] at chunks
  exact ⟨acc, fed, none_pending, all_written, chunks⟩

/-- A pass that takes in any digits that fit, and never loses a bit that it needs. -/
structure Lossless (taken : Nat)
    (settle? : Accumulator width size → Option (Accumulator width size)) : Prop where
  /-- Every write finds room, and less than a chunk is pending behind each digit. -/
  feed : ∀ digits : List (BitVec taken), taken * digits.length ≤ width * size →
    ∃ acc, feed? settle? {} digits = some acc ∧ Reached digits acc ∧ acc.pending < width
  /-- Each bit is in a chunk or still in the word, between two writes too. -/
  accounts : ∀ (front : List (BitVec taken)) (acc : Accumulator width size),
    Reached front acc → Accounts front acc

theorem Settles.lossless (settles : Settles taken settle?) (room : width + taken ≤ 33) :
    Lossless taken settle? where
  feed _ fits := settles.exists_feed? fits
  accounts _ _ reached := reached.accounts room

end Settles

end Accumulator

/-- The body that is stored in 20 bytes. -/
def Body.ofVector (bytes : Vector (BitVec 8) 20) : Body :=
  ofBytes (bytes.toList.map UInt8.ofBitVec)

theorem Body.toNat_ofVector (bytes : Vector (BitVec 8) 20) :
    (ofVector bytes).toNat = Chunks.number bytes.toList :=
  Words.toNat_ofBytes bytes

theorem Body.ofVector_injective : Function.Injective ofVector := by
  intro left right same
  apply Vector.toList_inj.mp
  apply Chunks.number_injective
  · rw [Vector.length_toList, Vector.length_toList]
  · rw [← toNat_ofVector, same, toNat_ofVector]

namespace Payload

open Accumulator

variable {payload : List Char} {position : Nat} {symbol : Char} {symbols : List Symbol}

/-! ## Bytes into symbols -/

theorem settles_bytes : Settles 8 (writeAll? : Accumulator 5 32 → Option (Accumulator 5 32)) :=
  settles_writeAll? (by decide)

theorem exists_symbolsOfBytes? (bytes : Vector (BitVec 8) 20) :
    ∃ symbols, symbolsOfBytes? bytes = some symbols ∧
      symbols.toList = (Body.ofVector bytes).symbols := by
  have full : 8 * bytes.toList.length = 5 * 32 := by rw [bytes.length_toList]
  obtain ⟨acc, fed, none_pending, _, number⟩ := settles_bytes.exists_filled (by decide) full
  refine ⟨acc.output, ?_, ?_⟩
  · change (feed? writeAll? {} bytes.toList).bind _ = _
    rw [fed]
    exact if_pos none_pending
  · apply Chunks.number_injective
    · rw [Vector.length_toList, Body.length_symbols]
      rfl
    · rw [number, Body.number_symbols, Body.toNat_ofVector]

theorem ofBytes?_eq (bytes : Vector (BitVec 8) 20) :
    ofBytes? bytes = some (encode (Body.ofVector bytes)) := by
  obtain ⟨symbols, found, symbols_eq⟩ := exists_symbolsOfBytes? bytes
  rw [ofBytes?, found, Option.map_some, symbols_eq]
  rfl

/-! ## Symbols into bytes -/

theorem fromByte?_cons (c : Char) (rest : List Char) (offset : Nat) :
    Text.fromByte? (c :: rest) (c.utf8Size + offset) = Text.fromByte? rest offset := by
  have positive := c.utf8Size_pos
  obtain ⟨before, total⟩ : ∃ before, c.utf8Size + offset = before + 1 :=
    ⟨c.utf8Size + offset - 1, by omega⟩
  rw [total, Text.fromByte?, if_pos (by omega), ← total, Nat.add_sub_cancel_left]

/-- A text behind other characters begins at the byte that they end at. -/
theorem fromByte?_append (front rest : List Char) :
    Text.fromByte? (front ++ rest) (Text.utf8Length front) = some rest := by
  induction front with
  | nil => simp [Text.fromByte?]
  | cons c front ih => rw [List.cons_append, Text.utf8Length_cons, fromByte?_cons, ih]

theorem faultAt_append (front rest : List Char) (c : Char) :
    faultAt (front ++ c :: rest) (Text.utf8Length front) =
      .invalidSymbol (Text.utf8Length front) c := by
  rw [faultAt, fromByte?_append]
  rfl

theorem faultAt_of_firstFault (fault : FirstFault payload position symbol) :
    faultAt payload position = .invalidSymbol position symbol := by
  obtain ⟨front, rest, shape, length⟩ := fault.character
  rw [shape, ← length, faultAt_append]

/-- Bytes that stand for symbols feed the accumulator. -/
theorem takeBytes?_append {front : List UInt8}
    (read : front.map Symbol.ofByte? = symbols.map some) (payload : List Char)
    (rest : List UInt8) (position : Nat) (acc : Accumulator 8 20) :
    takeBytes? payload position (front ++ rest) acc =
      (feed? writeOne? acc symbols).bind
        (takeBytes? payload (position + front.length) rest) := by
  induction front generalizing symbols position acc with
  | nil =>
      cases symbols with
      | nil => rfl
      | cons => simp at read
  | cons byte front ih =>
      cases symbols with
      | nil => simp at read
      | cons value symbols =>
          rw [List.map_cons, List.map_cons, List.cons.injEq] at read
          rw [List.cons_append, takeBytes?_cons_of_some read.1, feed?, List.foldlM_cons]
          cases wrote : (acc.take value).writeOne? with
          | none => rfl
          | some later =>
              rw [List.length_cons, Nat.add_comm front.length, ← Nat.add_assoc]
              exact ih read.2 (position + 1) later

theorem settles_symbols : Settles 5 (writeOne? : Accumulator 8 20 → Option (Accumulator 8 20)) :=
  settles_writeOne? (by decide) (by decide)

/-- As many bytes as a payload has are read if they all stand for symbols. -/
theorem exists_toBytes?_of_symbols (length_eq : (Text.utf8 payload).length = 32)
    (read : (Text.utf8 payload).map Symbol.ofByte? = symbols.map some) :
    ∃ bytes, toBytes? payload = some (.ok bytes) ∧
      Chunks.number bytes.toList = Chunks.number symbols := by
  have full : 5 * symbols.length = 8 * 20 := by rw [← length_eq_of_map_eq read, length_eq]
  obtain ⟨acc, fed, none_pending, all_written, number⟩ :=
    settles_symbols.exists_filled (by decide) full
  have passed : takeBytes? payload 0 (Text.utf8 payload) {} = some (.ok acc) := by
    have pass := takeBytes?_append read payload [] 0 {}
    rwa [List.append_nil, fed] at pass
  have filled : ¬(acc.written ≠ 20 ∨ acc.pending ≠ 0) := by
    rw [all_written, none_pending]
    decide
  refine ⟨acc.output, ?_, number⟩
  simp only [toBytes?, if_neg (not_not.mpr length_eq), passed]
  exact congrArg some (if_neg filled)

/-- The bytes before the first fault stand for symbols. -/
theorem FirstFault.exists_append (fault : FirstFault payload position symbol) :
    ∃ (symbols : List Symbol) (front : List UInt8) (bad : UInt8) (rest : List UInt8),
      Text.utf8 payload = front ++ bad :: rest ∧ front.length = position ∧
        front.map Symbol.ofByte? = symbols.map some ∧ Symbol.ofByte? bad = none := by
  obtain ⟨inBounds, bad, before⟩ := List.findIdx?_eq_some_iff_getElem.mp fault.byte
  have accepted : ∀ byte ∈ (Text.utf8 payload).take position, (Symbol.ofByte? byte).isSome := by
    intro byte member
    obtain ⟨index, indexBounds, rfl⟩ := List.mem_take_iff_getElem.mp member
    have present := before index (Nat.lt_of_lt_of_le indexBounds (Nat.min_le_left _ _))
    exact Option.isNone_eq_false_iff.mp (Bool.eq_false_of_not_eq_true present)
  obtain ⟨symbols, read⟩ := exists_symbols accepted
  refine ⟨symbols, (Text.utf8 payload).take position, (Text.utf8 payload)[position],
    (Text.utf8 payload).drop (position + 1), ?_, ?_, read, Option.isNone_iff_eq_none.mp bad⟩
  · rw [List.cons_getElem_drop_succ, List.take_append_drop]
  · rw [List.length_take, Nat.min_eq_left (Nat.le_of_lt inBounds)]

/-- The first fault stops the pass, which has had room for all chunks until then. -/
theorem toBytes?_of_firstFault (length_eq : (Text.utf8 payload).length = 32)
    (fault : FirstFault payload position symbol) :
    toBytes? payload = some (.error (.invalidSymbol position symbol)) := by
  obtain ⟨symbols, front, bad, rest, shape, front_length, read, absent⟩ := fault.exists_append
  have fits : 5 * symbols.length ≤ 8 * 20 := by
    have count := length_eq_of_map_eq read
    rw [shape, List.length_append] at length_eq
    omega
  obtain ⟨acc, fed, _⟩ := settles_symbols.exists_feed? fits
  have stopped : takeBytes? payload 0 (Text.utf8 payload) {} =
      some (.error (.invalidSymbol position symbol)) := by
    rw [shape, takeBytes?_append read, fed, Option.bind_some, takeBytes?_cons_of_none absent,
      Nat.zero_add, front_length, faultAt_of_firstFault fault]
  simp only [toBytes?, if_neg (not_not.mpr length_eq), stopped]
  rfl

theorem map_ofByte?_utf8 {text : List Char} (accepted : ∀ c ∈ text, Symbol.Accepted c) :
    (Text.utf8 text).map Symbol.ofByte? = text.map Symbol.ofChar? := by
  have ascii : ∀ c ∈ text, c.toNat < 128 :=
    fun c member => Symbol.toNat_lt_of_accepted (accepted c member)
  rw [Text.utf8_of_ascii ascii, List.map_map]
  exact List.map_congr_left fun c member => Symbol.ofByte?_toUInt8 (ascii c member)

/-- The pass gives the bytes of the decoded body, or the same error. -/
theorem map_toBytes? (payload : List Char) :
    (toBytes? payload).map (·.map Body.ofVector) = some (decode payload) := by
  by_cases length_eq : (Text.utf8 payload).length = 32
  · have right : ¬Text.utf8Length payload ≠ Body.symbolCount :=
      not_not.mpr ((Text.length_utf8 payload).symm.trans length_eq)
    rw [decode, if_neg right]
    cases outcome : readSymbols 0 payload with
    | error fault =>
        obtain ⟨position, symbol, first, rfl⟩ := readSymbols_eq_error_iff.mp outcome
        rw [toBytes?_of_firstFault length_eq first, Nat.zero_add]
        rfl
    | ok symbols =>
        have read := readSymbols_eq_ok_iff.mp outcome
        have readBytes := (map_ofByte?_utf8 (accepted_of_map_eq read)).trans read
        obtain ⟨bytes, found, number⟩ := exists_toBytes?_of_symbols length_eq readBytes
        have same : Body.ofVector bytes = Body.ofSymbols symbols := by
          apply BitVec.eq_of_toNat_eq
          have bound := Chunks.number_lt symbols
          rw [← length_eq_of_map_eq readBytes, length_eq] at bound
          rw [Body.toNat_ofVector, number, Body.ofSymbols, Chunks.toNat_join]
          exact (Nat.mod_eq_of_lt bound).symm
        rw [found, Option.map_some, Except.map, same]
        rfl
  · have wrong : Text.utf8Length payload ≠ Body.symbolCount :=
      fun equal => length_eq ((Text.length_utf8 payload).trans equal)
    have refused : toBytes? payload = some (.error (.payloadLength (Text.utf8 payload).length)) :=
      if_pos length_eq
    rw [decode, if_pos wrong, refused, Text.length_utf8]
    rfl

theorem toBytes?_eq_ok_iff {bytes : Vector (BitVec 8) 20} :
    toBytes? payload = some (.ok bytes) ↔ decode payload = .ok (Body.ofVector bytes) := by
  have decoded := map_toBytes? payload
  constructor
  · intro found
    rw [found] at decoded
    exact (Option.some.inj decoded).symm
  · intro body_eq
    rw [body_eq, Option.map_eq_some_iff] at decoded
    obtain ⟨outcome, found, mapped⟩ := decoded
    obtain ⟨other, rfl, same⟩ := map_eq_ok_iff.mp mapped
    rw [found, Body.ofVector_injective same]

theorem toBytes?_eq_error_iff {error : IdError} :
    toBytes? payload = some (.error error) ↔ decode payload = .error error := by
  have decoded := map_toBytes? payload
  constructor
  · intro found
    rw [found] at decoded
    exact (Option.some.inj decoded).symm
  · intro refused
    rw [refused, Option.map_eq_some_iff] at decoded
    obtain ⟨outcome, found, mapped⟩ := decoded
    rw [found, map_eq_error_iff.mp mapped]

/-! ## Both directions -/

/-- The symbols of bytes are the digits of their number in base 32. -/
theorem toNat_symbol {bytes : Vector (BitVec 8) 20} {symbols : Vector Symbol 32}
    (symbols_eq : symbols.toList = (Body.ofVector bytes).symbols) (index : Nat)
    (inBounds : index < 32) :
    symbols[index].toNat = (Chunks.number bytes.toList >>> (5 * (31 - index))) % 32 := by
  have digit := Chunks.toNat_vector_getElem symbols index inBounds
  rwa [symbols_eq, Body.number_symbols, Body.toNat_ofVector, Nat.add_comm index, ← Nat.sub_sub,
    ← Nat.shiftRight_eq_div_pow] at digit

theorem toBytes?_encode (bytes : Vector (BitVec 8) 20) :
    toBytes? (encode (Body.ofVector bytes)) = some (.ok bytes) :=
  toBytes?_eq_ok_iff.mpr (decode_encode _)

/-- A pass over a text whose length is right never ends with another length. -/
theorem toBytes?_ne_length (payload : List Char) :
    toBytes? payload ≠ some (.error (.payloadLength 32)) := by
  intro refused
  have failed := toBytes?_eq_error_iff.mp refused
  unfold decode at failed
  split at failed
  · next wrong =>
      rw [Except.error.injEq, IdError.payloadLength.injEq] at failed
      exact wrong failed
  · obtain ⟨_, _, _, other⟩ := readSymbols_eq_error_iff.mp (map_eq_error_iff.mp failed)
    contradiction

/-- Both passes write the numeral of one number, in the base 32 and in the base 256, and agree with
the encoding and the decoding of bodies.  Every write finds room, no bit is lost before it is
written, and no bits are left over. -/
theorem numerals_of_one_number :
    (∀ bytes : Vector (BitVec 8) 20, ∃ symbols, symbolsOfBytes? bytes = some symbols ∧
      symbols.toList = (Body.ofVector bytes).symbols ∧
      (∀ (index : Nat) (inBounds : index < 32), symbols[index].toNat =
        (Chunks.number bytes.toList >>> (5 * (31 - index))) % 32) ∧
      ofBytes? bytes = some (symbols.toList.map Symbol.toChar) ∧
      ofBytes? bytes = some (encode (Body.ofVector bytes)) ∧
      (ofBytes? bytes).bind toBytes? = some (.ok bytes)) ∧
    (∀ payload : List Char, (Text.utf8 payload).length = 32 →
      (∀ byte ∈ Text.utf8 payload, (Symbol.ofByte? byte).isSome) →
        ∃ bytes, toBytes? payload = some (.ok bytes) ∧
          Chunks.number bytes.toList = numeral payload ∧
          ofBytes? bytes = some (payload.map Symbol.fold)) ∧
    (∀ payload : List Char, (toBytes? payload).map (·.map Body.ofVector) = some (decode payload) ∧
      toBytes? payload ≠ some (.error (.payloadLength 32))) ∧
    Lossless 8 (writeAll? : Accumulator 5 32 → Option (Accumulator 5 32)) ∧
    Lossless 5 (writeOne? : Accumulator 8 20 → Option (Accumulator 8 20)) := by
  refine ⟨?_, ?_, ?_, settles_bytes.lossless (by decide), settles_symbols.lossless (by decide)⟩
  · intro bytes
    obtain ⟨symbols, found, symbols_eq⟩ := exists_symbolsOfBytes? bytes
    refine ⟨symbols, found, symbols_eq, toNat_symbol symbols_eq, ?_, ofBytes?_eq bytes, ?_⟩
    · rw [ofBytes?, found, Option.map_some]
    · rw [ofBytes?_eq, Option.bind_some, toBytes?_encode]
  · intro payload length_eq accepted
    obtain ⟨symbols, read⟩ := exists_symbols accepted
    obtain ⟨bytes, found, _⟩ := exists_toBytes?_of_symbols length_eq read
    have decoded := toBytes?_eq_ok_iff.mp found
    refine ⟨bytes, found, ?_, ?_⟩
    · rw [← Body.toNat_ofVector]
      exact (decode_eq_ok_iff_numeral.mp decoded).2.2
    · rw [ofBytes?_eq, encode_of_decode decoded]
  · intro payload
    exact ⟨map_toBytes? payload, toBytes?_ne_length payload⟩

/-- Letters that look like digits and letters of both cases are folded by the two passes. -/
theorem numerals_of_one_number_mixedCase :
    ∃ bytes, toBytes? "OoMYNGY59C0003000DFK59MG3E36J3iL".toList = some (.ok bytes) ∧
      Chunks.number bytes.toList = numeral "OoMYNGY59C0003000DFK59MG3E36J3iL".toList ∧
      ofBytes? bytes = some ("OoMYNGY59C0003000DFK59MG3E36J3iL".toList.map Symbol.fold) :=
  numerals_of_one_number.2.1 _ (by decide +kernel) (by decide +kernel)

end Payload

end SortableId
