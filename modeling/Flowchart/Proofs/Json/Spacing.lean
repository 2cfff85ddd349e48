import Flowchart.Proofs.Json.Reading
import Flowchart.Proofs.LowerCase

/-!
# The spacing of written values

Layouts set the parts of a value apart with gaps of different kinds, and strings hold gaps
of their own.  Where the gaps outside the strings are taken out, all layouts of a value are
one text.  The reader of gaps knows by the quotes where a string begins and ends, and by the
backslashes which quotes are inside it; so it goes over each string that is written as over
one part, and never loses its place.  In every layout only ASCII is written.

Main statements: `tightened_render`, `isAscii_of_mem_render`.
-/

namespace Flowchart.Json

/-- The text without the gaps outside its strings, from within a string or from outside. -/
def tightenedFrom : (inside : Bool) → Text → Text
  | _, [] => []
  | true, '\\' :: c :: rest => '\\' :: c :: tightenedFrom true rest
  | true, c :: rest => c :: tightenedFrom (c ≠ '"') rest
  | false, c :: rest =>
    if isGap c then tightenedFrom false rest else c :: tightenedFrom (c = '"') rest

/-- The text without the gaps outside its strings. -/
def tightened (text : Text) : Text :=
  tightenedFrom false text

/-! ## Parts of a text -/

/-- The characters are of ASCII, and neither a gap nor a quote is among them. -/
def Dense (part : Text) : Prop :=
  ∀ c ∈ part, isAscii c = true ∧ isGap c = false ∧ c ≠ '"'

/-- A dense part stays. -/
theorem Dense.tightened_append {part : Text} (h : Dense part) (rest : Text) :
    tightened (part ++ rest) = part ++ tightened rest := by
  induction part with
  | nil => rfl
  | cons c part ih =>
      obtain ⟨⟨_, hgap, hquote⟩, hpart⟩ := List.forall_mem_cons.mp h
      have hmore := ih hpart
      simp only [tightened] at hmore ⊢
      simp [tightenedFrom, hgap, hquote, hmore]

/-- Gaps are taken out. -/
theorem tightened_gaps {gaps : Text} (h : ∀ c ∈ gaps, isGap c = true) (rest : Text) :
    tightened (gaps ++ rest) = tightened rest := by
  induction gaps with
  | nil => rfl
  | cons c gaps ih =>
      obtain ⟨hgap, hgaps⟩ := List.forall_mem_cons.mp h
      have hmore := ih hgaps
      simp only [tightened] at hmore ⊢
      simp [tightenedFrom, hgap, hmore]

/-- The digits of a number hold no gap and no quote. -/
theorem dense_natText (n : Nat) : Dense (natText n) := by
  intro c hc
  have hdigit := isDigit_of_mem_natText hc
  have hne := ne_of_isDigit hdigit
  refine ⟨isAscii_of_isAlphanum (by simp [Char.isAlphanum, hdigit]), ?_, (hne '"' (by decide)).symm⟩
  simp [isGap, (hne _ _).symm]

/-- The text of an integer holds no gap and no quote. -/
theorem dense_intText (value : Int) : Dense (intText value) := by
  cases value with
  | ofNat n => exact dense_natText n
  | negSucc n => exact List.forall_mem_cons.mpr ⟨by decide, dense_natText (n + 1)⟩

/-! ## Strings -/

/-- The digits of an escape are of ASCII and end neither the escape nor the string. -/
theorem of_mem_hexText {width n : Nat} {c : Char} (h : c ∈ hexText width n) :
    isAscii c = true ∧ c ≠ '"' ∧ c ≠ '\\' := by
  have hdigits : ∀ digit < 16, isAscii (Nat.digitChar digit) = true ∧
      Nat.digitChar digit ≠ '"' ∧ Nat.digitChar digit ≠ '\\' := by decide
  obtain ⟨place, _, rfl⟩ := List.mem_map.mp h
  exact hdigits _ (Nat.mod_lt _ (by decide))

/-- Inside a string everything stays up to a quote or a backslash. -/
theorem tightenedFrom_inside {part : Text} (h : ∀ c ∈ part, c ≠ '"' ∧ c ≠ '\\') (rest : Text) :
    tightenedFrom true (part ++ rest) = part ++ tightenedFrom true rest := by
  induction part with
  | nil => rfl
  | cons c part ih =>
      obtain ⟨⟨hquote, hslash⟩, hpart⟩ := List.forall_mem_cons.mp h
      rw [List.cons_append, tightenedFrom]
      · simp [hquote, ih hpart]
      · simp [hslash]

/-- Within a string an escape stays as it is. -/
theorem tightenedFrom_unitEscape (unit : Nat) (rest : Text) :
    tightenedFrom true (unitEscape unit ++ rest) = unitEscape unit ++ tightenedFrom true rest := by
  have hdigits := @tightenedFrom_inside (hexText 4 unit) (fun c hc => (of_mem_hexText hc).2) rest
  rw [unitEscape, List.cons_append, List.cons_append, tightenedFrom, hdigits]
  rfl

/-- What stands for a character stays, and the string goes on behind it. -/
theorem tightenedFrom_stringChar (c : Char) (rest : Text) :
    tightenedFrom true (stringChar c ++ rest) = stringChar c ++ tightenedFrom true rest := by
  unfold stringChar
  split
  · rfl
  split
  · rfl
  split
  · rfl
  split
  · rfl
  split
  · rfl
  split
  · rfl
  split
  · next hmark _ _ _ _ _ _ =>
      exact tightenedFrom_inside (List.forall_mem_singleton.mpr (by simpa using hmark)) rest
  split
  · exact tightenedFrom_unitEscape _ rest
  · rw [List.append_assoc, tightenedFrom_unitEscape, tightenedFrom_unitEscape, List.append_assoc]

/-- A string stays as it is, with the gaps in it. -/
theorem tightened_stringText (text rest : Text) :
    tightened (stringText text ++ rest) = stringText text ++ tightened rest := by
  have hinside : ∀ text : Text, tightenedFrom true (text.flatMap stringChar ++ '"' :: rest)
      = text.flatMap stringChar ++ '"' :: tightened rest := by
    intro text
    induction text with
    | nil => rfl
    | cons c text ih =>
        rw [List.flatMap_cons, List.append_assoc, tightenedFrom_stringChar, ih, List.append_assoc]
  have hbegin : stringText text ++ rest = '"' :: (text.flatMap stringChar ++ '"' :: rest) := by
    simp [stringText]
  rw [hbegin, tightened, tightenedFrom, if_neg (by decide)]
  simp [hinside, stringText]

/-- What stands for a character is of ASCII. -/
theorem isAscii_of_mem_stringChar (c : Char) : ∀ d ∈ stringChar c, isAscii d = true := by
  have hescape : ∀ unit, ∀ d ∈ unitEscape unit, isAscii d = true := by
    refine fun unit => List.forall_mem_cons.mpr ⟨rfl, List.forall_mem_cons.mpr ⟨rfl, ?_⟩⟩
    exact fun _ hd => (of_mem_hexText hd).1
  unfold stringChar
  split
  · next h =>
      obtain rfl | rfl : c = '"' ∨ c = '\\' := by simpa using h
      · exact forall_mem_of_all rfl
      · exact forall_mem_of_all rfl
  split
  · exact forall_mem_of_all rfl
  split
  · exact forall_mem_of_all rfl
  split
  · exact forall_mem_of_all rfl
  split
  · exact forall_mem_of_all rfl
  split
  · exact forall_mem_of_all rfl
  split
  · next hplain =>
      refine List.forall_mem_singleton.mpr ?_
      simp only [isAscii, decide_eq_true_eq]
      omega
  split
  · exact hescape _
  · exact List.forall_mem_append.mpr ⟨hescape _, hescape _⟩

/-- A string is written in ASCII. -/
theorem isAscii_of_mem_stringText (text : Text) : ∀ c ∈ stringText text, isAscii c = true := by
  refine List.forall_mem_cons.mpr ⟨rfl, List.forall_mem_append.mpr
    ⟨fun c hc => ?_, List.forall_mem_singleton.mpr rfl⟩⟩
  obtain ⟨d, _, hd⟩ := List.mem_flatMap.mp hc
  exact isAscii_of_mem_stringChar d c hd

/-! ## Only ASCII -/

/-- Gaps are of ASCII. -/
theorem isAscii_of_isGap {c : Char} (h : isGap c = true) : isAscii c = true := by
  have hgap : ((c = ' ' ∨ c = '\t') ∨ c = '\n') ∨ c = '\r' := by simpa [isGap] using h
  rcases hgap with ((rfl | rfl) | rfl) | rfl <;> rfl

/-- Brackets around texts of ASCII, with the commas and gaps of a layout, are of ASCII. -/
theorem isAscii_of_mem_enclose (layout : Layout) (level : Nat) {first last : Char}
    (hfirst : isAscii first = true) (hlast : isAscii last = true) {texts : List Text}
    (h : ∀ text ∈ texts, ∀ c ∈ text, isAscii c = true) :
    ∀ c ∈ enclose layout level first last texts, isAscii c = true := by
  have hgaps : ∀ depth, ∀ c ∈ layout.lineStart depth, isAscii c = true := fun _ c hc =>
    isAscii_of_isGap (isGap_of_mem_lineStart c hc)
  obtain ⟨gaps, hbetween, hblanks⟩ := between_eq layout (level + 1)
  cases texts with
  | nil => exact List.forall_mem_cons.mpr ⟨hfirst, List.forall_mem_singleton.mpr hlast⟩
  | cons text texts =>
      intro c hc
      simp only [enclose, List.mem_append, List.mem_cons, List.not_mem_nil, or_false] at hc
      rcases hc with (((rfl | hstart) | hjoined) | hend) | rfl
      · exact hfirst
      · exact hgaps _ c hstart
      · rcases mem_joinWith hjoined with hcomma | ⟨other, hother, hmem⟩
        · rw [hbetween] at hcomma
          rcases List.mem_cons.mp hcomma with rfl | hgap
          · rfl
          · exact isAscii_of_isGap (hblanks c hgap)
        · exact h other hother c hmem
      · exact hgaps _ c hend
      · exact hlast

mutual

/-- Only ASCII is written of a value. -/
theorem isAscii_of_mem_renderAt (layout : Layout) (level : Nat) : (value : Json) →
    value.isExact = true → ∀ c ∈ renderAt layout level value, isAscii c = true
  | .null, _ => forall_mem_of_all rfl
  | .bool true, _ => forall_mem_of_all rfl
  | .bool false, _ => forall_mem_of_all rfl
  | .int value, _ => fun c hc => (dense_intText value c hc).1
  | .str text, _ => isAscii_of_mem_stringText text
  | .arr items, h =>
    isAscii_of_mem_enclose layout level rfl rfl
      (isAscii_of_mem_renderItems layout (level + 1) items h)
  | .obj members, h =>
    isAscii_of_mem_enclose layout level rfl rfl
      (isAscii_of_mem_renderMembers layout (level + 1) members h)

/-- Only ASCII is written of the items of an array. -/
theorem isAscii_of_mem_renderItems (layout : Layout) (level : Nat) : (items : List Json) →
    areExact items = true → ∀ text ∈ renderItems layout level items, ∀ c ∈ text, isAscii c = true
  | [], _ => nofun
  | item :: items, h => by
    obtain ⟨hitem, hitems⟩ : item.isExact = true ∧ areExact items = true := by
      simpa [areExact] using h
    exact List.forall_mem_cons.mpr ⟨isAscii_of_mem_renderAt layout level item hitem,
      isAscii_of_mem_renderItems layout level items hitems⟩

/-- Only ASCII is written of the members of an object. -/
theorem isAscii_of_mem_renderMembers (layout : Layout) (level : Nat) :
    (members : List (Text × Json)) → haveExact members = true →
      ∀ text ∈ renderMembers layout level members, ∀ c ∈ text, isAscii c = true
  | [], _ => nofun
  | (name, value) :: members, h => by
    obtain ⟨hvalue, hmembers⟩ : value.isExact = true ∧ haveExact members = true := by
      simpa [haveExact] using h
    refine List.forall_mem_cons.mpr ⟨?_, isAscii_of_mem_renderMembers layout level members hmembers⟩
    refine List.forall_mem_append.mpr ⟨List.forall_mem_append.mpr
      ⟨isAscii_of_mem_stringText name, forall_mem_of_all rfl⟩, ?_⟩
    exact isAscii_of_mem_renderAt layout level value hvalue

end

/-- **Only ASCII is written of a value**, whatever its strings hold. -/
theorem isAscii_of_mem_render (layout : Layout) {value : Json} (h : value.isExact = true) :
    ∀ c ∈ value.render layout, isAscii c = true :=
  isAscii_of_mem_renderAt layout 0 value h

/-! ## Layouts -/

/-- In two layouts brackets stand around what is one text without its gaps. -/
theorem tightened_brackets (layout other : Layout) (level depth : Nat) {first last : Char}
    (hfirst : Dense [first]) (hlast : Dense [last]) {body otherBody : Text}
    (h : ∀ rest more, tightened rest = tightened more →
      tightened (body ++ rest) = tightened (otherBody ++ more))
    {rest more : Text} (hrest : tightened rest = tightened more) :
    tightened (first :: layout.lineStart (level + 1) ++ body ++ layout.lineStart level ++ [last]
        ++ rest)
      = tightened (first :: other.lineStart (depth + 1) ++ otherBody ++ other.lineStart depth
        ++ [last] ++ more) := by
  have hbegin : ∀ text : Text, tightened (first :: text) = first :: tightened text :=
    hfirst.tightened_append
  have hclose : ∀ text : Text, tightened (last :: text) = last :: tightened text :=
    hlast.tightened_append
  have hend : tightened (layout.lineStart level ++ last :: rest)
      = tightened (other.lineStart depth ++ last :: more) := by
    rw [tightened_gaps isGap_of_mem_lineStart, tightened_gaps isGap_of_mem_lineStart, hclose,
      hclose, hrest]
  have hopened := h _ _ hend
  simp only [List.cons_append, List.append_assoc, List.nil_append, hbegin]
  rw [tightened_gaps isGap_of_mem_lineStart, tightened_gaps isGap_of_mem_lineStart, hopened]

/-- Between two items stands the same in all layouts, gaps apart. -/
theorem tightened_between (layout other : Layout) (level depth : Nat) {rest more : Text}
    (h : tightened rest = tightened more) :
    tightened (layout.between level ++ rest) = tightened (other.between depth ++ more) := by
  have hcomma : ∀ text : Text, tightened (',' :: text) = ',' :: tightened text :=
    Dense.tightened_append (forall_mem_of_all rfl : Dense [','])
  obtain ⟨gaps, hgaps, hblanks⟩ := between_eq layout level
  obtain ⟨otherGaps, hotherGaps, hotherBlanks⟩ := between_eq other depth
  rw [hgaps, hotherGaps, List.cons_append, List.cons_append, hcomma, hcomma,
    tightened_gaps hblanks, tightened_gaps hotherBlanks, h]

/-- A member is one text in all layouts where its value is, with what follows. -/
theorem tightened_member (name : Text) {valueText otherText rest more : Text}
    (h : tightened (valueText ++ rest) = tightened (otherText ++ more)) :
    tightened (stringText name ++ [':', ' '] ++ valueText ++ rest)
      = tightened (stringText name ++ [':', ' '] ++ otherText ++ more) := by
  have hcolon : ∀ text : Text, tightened (':' :: ' ' :: text) = ':' :: tightened text :=
    fun _ => rfl
  simp only [List.append_assoc, List.cons_append, List.nil_append, tightened_stringText, hcolon, h]

/-! ## Values

Texts are compared with what follows them in sight, since the reader of gaps is at the end of
a part only where the next one begins. -/

mutual

/-- Without their gaps the texts of a value in two layouts are one, and so is what follows. -/
theorem tightened_renderAt (layout other : Layout) (level depth : Nat) : (value : Json) →
    value.isExact = true → ∀ {rest more}, tightened rest = tightened more →
      tightened (renderAt layout level value ++ rest)
        = tightened (renderAt other depth value ++ more)
  | .null, _, _, _, h => (congrArg ("null".toList ++ ·) h :)
  | .bool true, _, _, _, h => (congrArg ("true".toList ++ ·) h :)
  | .bool false, _, _, _, h => (congrArg ("false".toList ++ ·) h :)
  | .int value, _, _, _, h => by
    rw [renderAt, renderAt, (dense_intText value).tightened_append,
      (dense_intText value).tightened_append, h]
  | .str text, _, _, _, h => by
    rw [renderAt, renderAt, tightened_stringText, tightened_stringText, h]
  | .arr [], _, _, _, h => (congrArg ("[]".toList ++ ·) h :)
  | .arr (item :: items), hexact, _, _, h => by
    rw [renderAt, renderAt, renderItems, renderItems, enclose, enclose, ← renderItems,
      ← renderItems]
    exact tightened_brackets layout other level depth (forall_mem_of_all rfl)
      (forall_mem_of_all rfl)
      (fun _ _ => tightened_renderItems layout other (level + 1) (depth + 1) _ hexact) h
  | .obj [], _, _, _, h => (congrArg ("\x7b\x7d".toList ++ ·) h :)
  | .obj ((name, value) :: members), hexact, _, _, h => by
    rw [renderAt, renderAt, renderMembers, renderMembers, enclose, enclose, ← renderMembers,
      ← renderMembers]
    exact tightened_brackets layout other level depth (forall_mem_of_all rfl)
      (forall_mem_of_all rfl)
      (fun _ _ => tightened_renderMembers layout other (level + 1) (depth + 1) _ hexact) h

/-- Without their gaps the texts of the items of an array in two layouts are one. -/
theorem tightened_renderItems (layout other : Layout) (level depth : Nat) : (items : List Json) →
    areExact items = true → ∀ {rest more}, tightened rest = tightened more →
      tightened (joinWith (layout.between level) (renderItems layout level items) ++ rest)
        = tightened (joinWith (other.between depth) (renderItems other depth items) ++ more)
  | [], _, _, _, h => h
  | [item], hexact, _, _, h => by
    have hitem : item.isExact = true := by simpa [areExact] using hexact
    simp only [renderItems, joinWith_singleton]
    exact tightened_renderAt layout other level depth item hitem h
  | item :: next :: items, hexact, _, _, h => by
    obtain ⟨hitem, hitems⟩ : item.isExact = true ∧ areExact (next :: items) = true := by
      simpa [areExact] using hexact
    have hmore := tightened_renderItems layout other level depth (next :: items) hitems h
    rw [renderItems, renderItems, renderItems, renderItems, joinWith_cons_cons, joinWith_cons_cons,
      ← renderItems, ← renderItems]
    simp only [List.append_assoc]
    exact tightened_renderAt layout other level depth item hitem
      (tightened_between layout other level depth hmore)

/-- Without their gaps the texts of the members of an object in two layouts are one. -/
theorem tightened_renderMembers (layout other : Layout) (level depth : Nat) :
    (members : List (Text × Json)) → haveExact members = true →
      ∀ {rest more}, tightened rest = tightened more →
        tightened (joinWith (layout.between level) (renderMembers layout level members) ++ rest)
          = tightened (joinWith (other.between depth) (renderMembers other depth members) ++ more)
  | [], _, _, _, h => h
  | [(name, value)], hexact, _, _, h => by
    have hvalue : value.isExact = true := by simpa [haveExact] using hexact
    simp only [renderMembers, joinWith_singleton]
    exact tightened_member name (tightened_renderAt layout other level depth value hvalue h)
  | (name, value) :: (key, next) :: members, hexact, _, _, h => by
    obtain ⟨hvalue, hmembers⟩ : value.isExact = true ∧
        haveExact ((key, next) :: members) = true := by
      simpa [haveExact] using hexact
    have hmore := tightened_renderMembers layout other level depth ((key, next) :: members)
      hmembers h
    rw [renderMembers, renderMembers, renderMembers, renderMembers, joinWith_cons_cons,
      joinWith_cons_cons, ← renderMembers, ← renderMembers]
    have hmember := tightened_member name (tightened_renderAt layout other level depth value hvalue
      (tightened_between layout other level depth hmore))
    simpa only [List.append_assoc] using hmember

end

/-- **Without the gaps outside the strings, the texts of a value in all layouts are one.** -/
theorem tightened_render (layout other : Layout) {value : Json} (h : value.isExact = true) :
    tightened (value.render layout) = tightened (value.render other) := by
  have hwhole := @tightened_renderAt layout other 0 0 value h [] [] rfl
  simpa only [render, List.append_nil] using hwhole

/-- The blanks in a string stay, and a quote behind a backslash does not end it. -/
example : tightened "[\n  1,\n  \" \\\" ,\"\n]".toList = "[1,\" \\\" ,\"]".toList := by
  decide

end Flowchart.Json
