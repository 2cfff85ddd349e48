import Flowchart.Proofs.Lines
import Flowchart.Report
import Flowchart.Text.Utf8
import Mathlib.Tactic.IntervalCases

/-!
# Bytes and their lines

A byte of ASCII is read as its character wherever the decoder stands, since no open
character may go on with it; and no other byte ends in a line feed or a carriage return,
since the bits of an open character never make a number as small as these.  So the decoder
starts anew behind every line feed, and whatever is wrong with the bytes of a line is wrong
with that line alone.  The bytes of a text are read as that text, whatever follows them.

Main statement: `decode_line_by_line`.
-/

namespace Flowchart.Utf8

/-! ## States between two bytes -/

/-- An open character goes on with bytes above ASCII only, and its bits will make at least
the number of the first character that has two bytes. -/
def State.Sound : State → Prop
  | idle => True
  | within owed least most value =>
    0x80 ≤ least ∧ most ≤ 0xBF ∧ (2 ≤ value ∨ 0 < owed ∧ (0 < value ∨ 0x90 ≤ least))

/-- A byte of ASCII is a character by itself. -/
theorem start_one {byte : Nat} (h : byte < 0x80) : start byte = ([Char.ofNat byte], .idle) :=
  if_pos h

/-- A character of two bytes begins with its upper five bits. -/
theorem start_two {byte : Nat} (hlow : 0xC2 ≤ byte) (hhigh : byte ≤ 0xDF) :
    start byte = ([], .within 0 0x80 0xBF (byte - 0xC0)) := by
  interval_cases byte <;> rfl

/-- A character of three bytes begins with its upper four bits, and the second byte may not make it
too small, nor a surrogate. -/
theorem start_three {byte : Nat} (hlow : 0xE0 ≤ byte) (hhigh : byte ≤ 0xEF) :
    start byte = ([], .within 1 (if byte = 0xE0 then 0xA0 else 0x80)
      (if byte = 0xED then 0x9F else 0xBF) (byte - 0xE0)) := by
  interval_cases byte <;> rfl

/-- A character of four bytes begins with its upper three bits, and the second byte may not make it
too small, nor too large. -/
theorem start_four {byte : Nat} (hlow : 0xF0 ≤ byte) (hhigh : byte ≤ 0xF4) :
    start byte = ([], .within 2 (if byte = 0xF0 then 0x90 else 0x80)
      (if byte = 0xF4 then 0x8F else 0xBF) (byte - 0xF0)) := by
  interval_cases byte <;> rfl

/-- No character begins with such a byte. -/
theorem start_stray {byte : Nat} (hlow : 0x80 ≤ byte) (h : byte < 0xC2 ∨ 0xF4 < byte) :
    start byte = ([replacement], .idle) := by
  simp only [start, if_neg (show ¬ byte < 0x80 by omega),
    if_neg (show ¬ (0xC2 ≤ byte ∧ byte ≤ 0xDF) by omega), if_neg (show ¬ byte = 0xE0 by omega),
    if_neg (show ¬ byte = 0xED by omega), if_neg (show ¬ (0xE1 ≤ byte ∧ byte ≤ 0xEF) by omega),
    if_neg (show ¬ byte = 0xF0 by omega), if_neg (show ¬ (0xF1 ≤ byte ∧ byte ≤ 0xF3) by omega),
    if_neg (show ¬ byte = 0xF4 by omega)]

/-- A byte above ASCII begins a character, or is lost. -/
theorem start_of_le {byte : Nat} (h : 0x80 ≤ byte) :
    start byte = ([replacement], .idle) ∨
      ∃ owed least most value, start byte = ([], .within owed least most value) ∧
        (State.within owed least most value).Sound := by
  by_cases hstray : byte < 0xC2 ∨ 0xF4 < byte
  · exact Or.inl (start_stray h hstray)
  · refine Or.inr ?_
    by_cases htwo : byte ≤ 0xDF
    · exact ⟨_, _, _, _, start_two (by omega) htwo, by unfold State.Sound; omega⟩
    · by_cases hthree : byte ≤ 0xEF
      · refine ⟨_, _, _, _, start_three (by omega) hthree, ?_⟩
        simp only [State.Sound]
        split <;> split <;> omega
      · refine ⟨_, _, _, _, start_four (by omega) (by omega), ?_⟩
        simp only [State.Sound]
        split <;> split <;> omega

/-- A byte of ASCII ends what is open and is read as itself. -/
theorem step_of_lt {state : State} (hsound : state.Sound) {byte : Nat} (h : byte < 0x80) :
    step state byte = (state.finish ++ [Char.ofNat byte], .idle) := by
  cases state with
  | idle => exact start_one h
  | within owed least most value =>
      obtain ⟨hleast, _, _⟩ := hsound
      have hnot : ¬ (least ≤ byte ∧ byte ≤ most) := by omega
      rw [step, if_neg hnot, start_one h]
      rfl

/-- The character of a valid number has that number. -/
theorem toNat_charOfNat {n : Nat} (h : n.isValidChar) : (Char.ofNat n).toNat = n := by
  rw [Char.ofNat, dif_pos h]
  rfl

/-- A number from two bytes on is that of no line break. -/
theorem unbroken_ofNat {n : Nat} (h : 0x80 ≤ n) : Unbroken [Char.ofNat n] := by
  have hother : ∀ c : Char, c ≠ '\x00' → c.toNat < 0x80 → Char.ofNat n ≠ c := by
    rintro c hzero hascii rfl
    by_cases hvalid : n.isValidChar
    · rw [toNat_charOfNat hvalid] at hascii
      omega
    · exact hzero (dif_neg hvalid)
  intro c hc
  obtain rfl := List.mem_singleton.mp hc
  exact ⟨hother '\n' (by decide) (by decide), hother '\r' (by decide) (by decide)⟩

/-- A byte above ASCII makes no line break and no state that is not sound; where it makes no
character at all, one is open behind it. -/
theorem step_of_le {state : State} (hsound : state.Sound) {byte : Nat} (h : 0x80 ≤ byte) :
    Unbroken (step state byte).1 ∧ (step state byte).2.Sound ∧
      ((step state byte).1 = [] → (step state byte).2 ≠ .idle) := by
  have hlost : Unbroken [replacement] := by decide
  cases state with
  | idle =>
      rw [step]
      rcases start_of_le h with hstart | ⟨owed, least, most, value, hstart, hopen⟩
      · rw [hstart]
        exact ⟨hlost, trivial, nofun⟩
      · rw [hstart]
        exact ⟨nofun, hopen, fun _ => nofun⟩
  | within owed least most value =>
      rw [step]
      split
      · rename_i hfits
        obtain ⟨hleast, hmost, hvalue⟩ := hsound
        cases owed with
        | zero => exact ⟨unbroken_ofNat (by omega), trivial, nofun⟩
        | succ owed =>
            refine ⟨nofun, ?_, fun _ => nofun⟩
            simp only [State.Sound]
            omega
      · rcases start_of_le h with hstart | ⟨owed, least, most, value, hstart, hopen⟩
        · rw [hstart]
          exact ⟨by decide, trivial, nofun⟩
        · rw [hstart]
          exact ⟨hlost, hopen, nofun⟩

/-- Every byte leaves a sound state. -/
theorem State.Sound.step {state : State} (h : state.Sound) (byte : Nat) :
    (Utf8.step state byte).2.Sound := by
  by_cases hascii : byte < 0x80
  · rw [step_of_lt h hascii]
    trivial
  · exact (step_of_le h (Nat.not_lt.mp hascii)).2.1

/-! ## Bytes of ASCII -/

/-- The first byte is read first. -/
theorem decodeFrom_cons (state : State) (byte : UInt8) (bytes : List UInt8) :
    decodeFrom state (byte :: bytes)
      = (step state byte.toNat).1 ++ decodeFrom (step state byte.toNat).2 bytes := rfl

/-- A byte of ASCII ends what was open, and the decoder starts anew behind it. -/
theorem decodeFrom_ascii {state : State} (hsound : state.Sound) {byte : UInt8}
    (h : byte.toNat < 0x80) (bytes : List UInt8) :
    decodeFrom state (byte :: bytes)
      = state.finish ++ Char.ofNat byte.toNat :: decode bytes := by
  rw [decodeFrom_cons, step_of_lt hsound h]
  exact List.append_assoc ..

/-- Behind a byte of ASCII the decoder starts anew. -/
theorem decodeFrom_append_ascii {state : State} (hsound : state.Sound) {byte : UInt8}
    (h : byte.toNat < 0x80) (front back : List UInt8) :
    decodeFrom state (front ++ byte :: back)
      = decodeFrom state front ++ Char.ofNat byte.toNat :: decode back := by
  induction front generalizing state with
  | nil => exact decodeFrom_ascii hsound h back
  | cons first front ih =>
      rw [List.cons_append, decodeFrom_cons, decodeFrom_cons, ih (hsound.step first.toNat),
        List.append_assoc]

/-! ## Characters -/

/-- A number below 256 is that of its byte. -/
theorem toNat_ofNat {n : Nat} (h : n < 256) : (UInt8.ofNat n).toNat = n := by
  rw [UInt8.toNat_ofNat']
  exact Nat.mod_eq_of_lt h

/-- The last byte of a character completes it. -/
theorem decodeFrom_within_zero {least most value byte : Nat} (hfits : least ≤ byte ∧ byte ≤ most)
    (hbyte : byte < 256) (bytes : List UInt8) :
    decodeFrom (.within 0 least most value) (UInt8.ofNat byte :: bytes)
      = Char.ofNat (64 * value + byte % 64) :: decode bytes := by
  rw [decodeFrom_cons, toNat_ofNat hbyte, step, if_pos hfits]
  rfl

/-- Any other byte of a character adds its bits. -/
theorem decodeFrom_within_succ {owed least most value byte : Nat}
    (hfits : least ≤ byte ∧ byte ≤ most) (hbyte : byte < 256) (bytes : List UInt8) :
    decodeFrom (.within (owed + 1) least most value) (UInt8.ofNat byte :: bytes)
      = decodeFrom (.within owed 0x80 0xBF (64 * value + byte % 64)) bytes := by
  rw [decodeFrom_cons, toNat_ofNat hbyte, step, if_pos hfits]
  rfl

/-- A byte that begins a longer character leaves it open. -/
theorem decode_begin {byte : Nat} {state : State} (hbyte : byte < 256)
    (hstart : start byte = ([], state)) (bytes : List UInt8) :
    decode (UInt8.ofNat byte :: bytes) = decodeFrom state bytes := by
  rw [decode, decodeFrom_cons, toNat_ofNat hbyte, step, hstart]
  rfl

/-- The bytes of a character are read as that character, whatever follows. -/
theorem decode_utf8EncodeChar_append (c : Char) (bytes : List UInt8) :
    decode (String.utf8EncodeChar c ++ bytes) = c :: decode bytes := by
  have hvalid : c.val.toNat < 0xD800 ∨ 0xDFFF < c.val.toNat ∧ c.val.toNat < 0x110000 := c.valid
  have hchar : Char.ofNat c.val.toNat = c := Char.ofNat_toNat c
  generalize hv : c.val.toNat = v at hvalid hchar
  unfold String.utf8EncodeChar
  simp only [hv]
  by_cases hone : v ≤ 0x7F
  · rw [if_pos hone]
    have hlast := @decodeFrom_ascii .idle trivial (UInt8.ofNat v)
      (by rw [toNat_ofNat (by omega)]; omega) bytes
    rw [toNat_ofNat (by omega), hchar] at hlast
    exact hlast
  rw [if_neg hone]
  by_cases htwo : v ≤ 0x7FF
  · rw [if_pos htwo, List.cons_append, List.cons_append, List.nil_append,
      decode_begin (by omega) (start_two (by omega) (by omega)),
      decodeFrom_within_zero (by omega) (by omega)]
    have hbits : 64 * (v / 64 % 32 + 192 - 0xC0) + (v % 64 + 128) % 64 = v := by omega
    rw [hbits, hchar]
  rw [if_neg htwo]
  by_cases hthree : v ≤ 0xFFFF
  · rw [if_pos hthree, List.cons_append, List.cons_append, List.cons_append, List.nil_append,
      decode_begin (by omega) (start_three (by omega) (by omega)),
      decodeFrom_within_succ (by split <;> split <;> omega) (by omega),
      decodeFrom_within_zero (by omega) (by omega)]
    have hbits : 64 * (64 * (v / 4096 % 16 + 224 - 0xE0) + (v / 64 % 64 + 128) % 64)
        + (v % 64 + 128) % 64 = v := by omega
    rw [hbits, hchar]
  · rw [if_neg hthree, List.cons_append, List.cons_append, List.cons_append, List.cons_append,
      List.nil_append, decode_begin (by omega) (start_four (by omega) (by omega)),
      decodeFrom_within_succ (by split <;> split <;> omega) (by omega),
      decodeFrom_within_succ (by omega) (by omega),
      decodeFrom_within_zero (by omega) (by omega)]
    have hbits : 64 * (64 * (64 * (v / 262144 % 8 + 240 - 0xF0) + (v / 4096 % 64 + 128) % 64)
        + (v / 64 % 64 + 128) % 64) + (v % 64 + 128) % 64 = v := by omega
    rw [hbits, hchar]

/-- Without bytes there is nothing to read. -/
theorem decode_nil : decode [] = [] := rfl

/-- The bytes of a text are read as the text, whatever follows them. -/
theorem decode_encode_append (text : Text) (bytes : List UInt8) :
    decode (encode text ++ bytes) = text ++ decode bytes := by
  induction text with
  | nil => rfl
  | cons c text ih =>
      rw [encode, List.flatMap_cons, List.append_assoc, decode_utf8EncodeChar_append, ← encode, ih]
      rfl

/-- The bytes of a text are read as that text. -/
theorem decode_encode (text : Text) : decode (encode text) = text := by
  have happend := decode_encode_append text []
  rwa [List.append_nil, decode_nil, List.append_nil] at happend

/-! ## Lines -/

/-- The bytes of each line: a line ends at a line feed, or at a carriage return with a line
feed behind it. -/
def byteLines : List UInt8 → List (List UInt8)
  | [] => [[]]
  | byte :: bytes =>
    if byte = 0x0A then [] :: byteLines bytes
    else if byte = 0x0D ∧ bytes.head? = some 0x0A then byteLines bytes
    else (byteLines bytes).modifyHead (byte :: ·)

/-- A character of ASCII comes from its own byte. -/
theorem eq_of_ofNat_toNat {byte other : UInt8} (h : byte.toNat < 0x80) (hother : other.toNat < 0x80)
    (hsame : Char.ofNat byte.toNat = Char.ofNat other.toNat) : byte = other := by
  have hnumbers := congrArg Char.toNat hsame
  rw [toNat_charOfNat (Or.inl (by omega)), toNat_charOfNat (Or.inl (by omega))] at hnumbers
  exact UInt8.toNat_inj.mp hnumbers

/-- Text begins with a line feed only where the bytes do. -/
theorem head?_of_head?_decodeFrom {state : State} (hsound : state.Sound) {bytes : List UInt8}
    (h : (decodeFrom state bytes).head? = some '\n') :
    state = .idle ∧ bytes.head? = some 0x0A := by
  induction bytes generalizing state with
  | nil => cases state <;> simp [decodeFrom, State.finish, replacement] at h
  | cons byte bytes ih =>
      rw [decodeFrom_cons] at h
      by_cases hascii : byte.toNat < 0x80
      · rw [step_of_lt hsound hascii] at h
        cases state with
        | idle =>
            obtain rfl : byte = 0x0A :=
              eq_of_ofNat_toNat hascii (by decide) (Option.some.inj h)
            exact ⟨rfl, rfl⟩
        | within owed least most value => simp [State.finish, replacement] at h
      · obtain ⟨hbreak, hnext, hopen⟩ := step_of_le hsound (Nat.not_lt.mp hascii)
        cases hmade : (step state byte.toNat).1 with
        | nil =>
            rw [hmade] at h
            exact absurd (ih hnext h).1 (hopen hmade)
        | cons c more =>
            rw [hmade] at h hbreak
            exact absurd (Option.some.inj h) (hbreak c List.mem_cons_self).1

/-- What is left open ends in no break. -/
theorem State.unbroken_finish (state : State) : Unbroken state.finish := by
  cases state with
  | idle => exact nofun
  | within owed least most value =>
      have hlost : Unbroken [replacement] := by decide
      exact hlost

/-- A byte makes a line feed only if it is one, and a carriage return as well. -/
theorem eq_of_mem_step {state : State} (hsound : state.Sound) {byte : UInt8} {c : Char}
    (hc : c ∈ (step state byte.toNat).1) :
    (c = '\n' → byte = 0x0A) ∧
      (c = '\r' → byte = 0x0D ∧ (step state byte.toNat).2 = .idle) := by
  by_cases hascii : byte.toNat < 0x80
  · rw [step_of_lt hsound hascii] at hc ⊢
    rcases List.mem_append.mp hc with hlost | hread
    · have hbreak := state.unbroken_finish c hlost
      exact ⟨fun h => absurd h hbreak.1, fun h => absurd h hbreak.2⟩
    · obtain rfl := List.mem_singleton.mp hread
      exact ⟨@eq_of_ofNat_toNat byte 0x0A hascii (by decide),
        fun h => ⟨@eq_of_ofNat_toNat byte 0x0D hascii (by decide) h, rfl⟩⟩
  · have hbreak := (step_of_le hsound (Nat.not_lt.mp hascii)).1 c hc
    exact ⟨fun h => absurd h hbreak.1, fun h => absurd h hbreak.2⟩

/-- What is left open goes on the first line behind it. -/
theorem splitLines_finish_append (state : State) {rest first : Text} {more : List Text}
    (h : splitLines rest = first :: more) :
    splitLines (state.finish ++ rest) = (state.finish ++ first) :: more := by
  have hbreak := state.unbroken_finish
  exact splitLines_append (fun hfeed => (hbreak _ hfeed).1 rfl)
    (fun hlast => absurd rfl (hbreak _ (List.mem_of_getLast? hlast)).2) h

/-- The lines of the text are those of the bytes, each read by itself; only the first goes on from
the state.  A carriage return and the line feed behind it end one line together. -/
theorem splitLines_decodeFrom {state : State} (hsound : state.Sound) (bytes : List UInt8) :
    ∃ first more, byteLines bytes = first :: more ∧
      splitLines (decodeFrom state bytes) = decodeFrom state first :: more.map decode := by
  induction bytes generalizing state with
  | nil =>
      refine ⟨[], [], rfl, ?_⟩
      cases state <;> rfl
  | cons byte bytes ih =>
      by_cases hfeed : byte = 0x0A
      · subst hfeed
        obtain ⟨first, more, hlines, hsplit⟩ := @ih .idle trivial
        have hrest : splitLines ('\n' :: decode bytes) = [] :: (byteLines bytes).map decode := by
          rw [splitLines_lf, decode, hsplit, hlines]
          rfl
        refine ⟨[], byteLines bytes, by simp [byteLines], ?_⟩
        have hread := splitLines_finish_append state hrest
        rw [List.append_nil] at hread
        rw [decodeFrom_ascii hsound (by decide)]
        exact hread
      · by_cases hpair : byte = 0x0D ∧ bytes.head? = some 0x0A
        · obtain ⟨rfl, hhead⟩ := hpair
          obtain ⟨rest, rfl⟩ := List.head?_eq_some_iff.mp hhead
          obtain ⟨first, more, hlines, hsplit⟩ := @ih .idle trivial
          have hfirst : byteLines (0x0A :: rest) = [] :: byteLines rest := by simp [byteLines]
          obtain ⟨rfl, rfl⟩ := List.cons.inj (hfirst.symm.trans hlines)
          rw [@decodeFrom_ascii .idle trivial 0x0A (by decide)] at hsplit
          have hrest : splitLines ('\r' :: '\n' :: decode rest)
              = [] :: (byteLines rest).map decode := (splitLines_crlf (decode rest)).trans hsplit
          have hread := splitLines_finish_append state hrest
          rw [List.append_nil] at hread
          refine ⟨[], byteLines rest, by simp [byteLines], ?_⟩
          rw [decodeFrom_ascii hsound (by decide), decode,
            @decodeFrom_ascii .idle trivial 0x0A (by decide)]
          exact hread
        · obtain ⟨first, more, hlines, hsplit⟩ := ih (hsound.step byte.toNat)
          refine ⟨byte :: first, more, by simp [byteLines, hfeed, hpair, hlines], ?_⟩
          rw [decodeFrom_cons, decodeFrom_cons]
          refine splitLines_append (fun hmem => hfeed ((eq_of_mem_step hsound hmem).1 rfl))
            (fun hlast hhead => hpair ?_) hsplit
          obtain ⟨hreturn, hidle⟩ :=
            (eq_of_mem_step hsound (List.mem_of_getLast? hlast)).2 rfl
          exact ⟨hreturn, (head?_of_head?_decodeFrom (hsound.step byte.toNat) hhead).2⟩

/-- **Bytes are read line by line.** Behind a line feed the decoder starts anew; the bytes of a
text are read as the text, whatever follows, so that their issues and their report are those of
the text; and each line of the text that is read comes from the bytes of that line alone. -/
theorem decode_line_by_line :
    (∀ front back, decode (front ++ 0x0A :: back) = decode front ++ '\n' :: decode back) ∧
      (∀ text bytes, decode (encode text ++ bytes) = text ++ decode bytes) ∧
      (∀ limits text, analyzeBytes limits (encode text) = analyze limits text) ∧
      (∀ limits run sorted filePath text,
        lintBytes limits run sorted filePath (encode text)
          = lint limits run sorted filePath text) ∧
      ∀ bytes, splitLines (decode bytes) = (byteLines bytes).map decode := by
  refine ⟨fun front back => ?_, decode_encode_append, fun limits text => ?_,
    fun limits run sorted filePath text => ?_, fun bytes => ?_⟩
  · exact @decodeFrom_append_ascii .idle trivial 0x0A (by decide) front back
  · rw [analyzeBytes, decode_encode]
  · rw [lintBytes, decode_encode]
  · obtain ⟨first, more, hlines, hsplit⟩ := @splitLines_decodeFrom .idle trivial bytes
    rw [decode, hsplit, hlines]
    rfl

/-- A start of three bytes that a line feed cuts off, and a stray byte on the next line. -/
example : splitLines (decode [0x41, 0xE2, 0x82, 0x0D, 0x0A, 0xFF, 0x42])
    = [['A', replacement], [replacement, 'B']] := by decide

end Flowchart.Utf8
