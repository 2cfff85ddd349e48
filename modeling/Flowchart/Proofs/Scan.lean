import Flowchart.Proofs.Endpoint
import Mathlib.Data.List.Forall2

/-!
# Stretches at their places

A line can be scanned by offsets: arrow after arrow, with the place where the one before
stopped, while the arrows are blanked one by one.  The stretches between the arrows hold
the same.  Each window before an arrow is a stretch, with a character in front of it that
goes on no name; what stands behind an arrow begins with a stretch; and the names of the
blanked line are those of the stretches, since no name goes across a blank.

Main statements: `forall₂_approaches`, `exists_placed_eq_cons`, `spans_blankArrows`.
-/

namespace Flowchart

/-! ## The first arrow of a text -/

/-- The first arrow of the whole stands behind the part. -/
structure FirstArrow (part found rest : Text) : Prop where
  /-- It is an arrow. -/
  isArrow : IsArrow found
  /-- No arrow begins in the part, and this one goes as far as the rest. -/
  pieces_eq : pieces arrow (part ++ (found ++ rest))
    = part.map .plain ++ .lexeme found rest :: pieces arrow rest

/-- A text has no arrow, or a first one. -/
theorem arrowless_or_firstArrow (text : Text) :
    pieces arrow text = text.map .plain ∨
      ∃ part found rest, text = part ++ (found ++ rest) ∧ FirstArrow part found rest := by
  induction text using arrow_sound.induction (fun _ _ h => (isArrow_of_arrow h).ne_nil) with
  | nil => exact Or.inl rfl
  | plain c rest hplain ih =>
      rcases ih with hnone | ⟨part, found, behind, rfl, hfirst⟩
      · left
        rw [arrow_blind.pieces_plain hplain, hnone]
        rfl
      · refine Or.inr ⟨c :: part, found, behind, rfl, hfirst.isArrow, ?_⟩
        rw [List.cons_append, arrow_blind.pieces_plain hplain, hfirst.pieces_eq]
        rfl
  | lexeme found rest hfound _ =>
      have harrow := isArrow_of_arrow hfound
      refine Or.inr ⟨[], found, rest, rfl, harrow, ?_⟩
      exact arrow_blind.pieces_lexeme harrow.ne_nil hfound

/-- To prove something of a text, take it apart at its arrows. -/
theorem arrow_induction {motive : Text → Prop}
    (last : ∀ part, pieces arrow part = part.map .plain → motive part)
    (next : ∀ part found rest, FirstArrow part found rest → motive rest →
      motive (part ++ (found ++ rest)))
    (text : Text) : motive text := by
  induction hlength : text.length using Nat.strongRecOn generalizing text with
  | ind length ih =>
      rcases arrowless_or_firstArrow text with hnone | ⟨part, found, rest, rfl, hfirst⟩
      · exact last text hnone
      · have hshort : rest.length < length := by
          have hpositive := List.length_pos_iff.mpr hfirst.isArrow.ne_nil
          simp only [List.length_append] at hlength
          omega
        exact next part found rest hfirst (ih rest.length hshort rest rfl)

/-! ## Arrows and stretches at their places -/

/-- The place behind an occurrence. -/
def Occurrence.stop (found : Occurrence) : Nat :=
  found.start + found.text.length

/-- An arrow, and the place from which the endpoint before it is looked for. -/
structure Approach where
  /-- Where the arrow before it stops, or the line begins. -/
  start : Nat
  /-- The arrow. -/
  arrow : Occurrence
  deriving DecidableEq, Repr

/-- The approaches to arrows, of which the first begins at `start`. -/
def approachesFrom : (start : Nat) → List Occurrence → List Approach
  | _, [] => []
  | start, arrow :: arrows => ⟨start, arrow⟩ :: approachesFrom arrow.stop arrows

/-- The approaches to the arrows of a prepared line. -/
def approaches (prepared : Text) : List Approach :=
  approachesFrom 0 (occurrences arrow prepared)

/-- The prepared line with each arrow exchanged for as many spaces. -/
def blankArrows (prepared : Text) : Text :=
  replaceEach arrow (fun found => List.replicate found.length ' ') prepared

/-- The stretches with their places, the first of which is `start`. -/
def placedFrom : (start : Nat) → List Stretch → List (Nat × Stretch)
  | _, [] => []
  | start, stretch :: more =>
    (start, stretch) :: placedFrom (start + stretch.text.length + stretch.arrowText.length) more

/-- The stretches of a prepared line with their places. -/
def placed (prepared : Text) : List (Nat × Stretch) :=
  placedFrom 0 (stretches prepared)

/-- Without their places the stretches are those that were placed. -/
theorem map_placedFrom (start : Nat) (cut : List Stretch) :
    (placedFrom start cut).map Prod.snd = cut := by
  induction cut generalizing start with
  | nil => rfl
  | cons stretch cut ih => rw [placedFrom, List.map_cons, ih]

/-- Each stretch has a place. -/
theorem mem_stretches_iff {prepared : Text} {stretch : Stretch} :
    stretch ∈ stretches prepared ↔ ∃ place, (place, stretch) ∈ placed prepared := by
  rw [← map_placedFrom 0 (stretches prepared), ← placed]
  simp

/-- A part without arrows is one stretch. -/
theorem stretchesFrom_of_arrowless {part : Text} (h : pieces arrow part = part.map .plain)
    (entered : Bool) : stretchesFrom entered (pieces arrow part) = [⟨entered, part, none⟩] := by
  have hnil : stretchesFrom entered [] = [⟨entered, [], none⟩] := rfl
  have hplain := stretchesFrom_plain hnil part
  rw [List.append_nil] at hplain
  rw [h, hplain, List.append_nil]

/-- In a part without arrows none occurs. -/
theorem occurrencesFrom_of_arrowless {part : Text} (h : pieces arrow part = part.map .plain)
    (start : Nat) : occurrencesFrom start (pieces arrow part) = [] := by
  have hplain := occurrencesFrom_plain_append start part []
  rw [List.append_nil] at hplain
  rw [h, hplain, occurrencesFrom]

/-- A part without arrows is not blanked. -/
theorem blankArrows_of_arrowless {part : Text} (h : pieces arrow part = part.map .plain) :
    blankArrows part = part := by
  rw [blankArrows, replaceEach, h, List.flatMap_map]
  simp

namespace FirstArrow

variable {part found rest : Text} (h : FirstArrow part found rest)

include h

/-- The first stretch ends where the first arrow begins. -/
theorem stretchesFrom_eq (entered : Bool) :
    stretchesFrom entered (pieces arrow (part ++ (found ++ rest)))
      = ⟨entered, part, some found⟩ :: stretchesFrom true (pieces arrow rest) := by
  have hcut : stretchesFrom entered (.lexeme found rest :: pieces arrow rest)
      = ⟨entered, [], some found⟩ :: stretchesFrom true (pieces arrow rest) := rfl
  rw [h.pieces_eq, stretchesFrom_plain hcut, List.append_nil]

/-- The first arrow occurs behind the part. -/
theorem occurrencesFrom_eq (start : Nat) :
    occurrencesFrom start (pieces arrow (part ++ (found ++ rest)))
      = ⟨start + part.length, found, rest⟩
        :: occurrencesFrom (start + part.length + found.length) (pieces arrow rest) := by
  rw [h.pieces_eq, occurrencesFrom_plain_append, occurrencesFrom]

/-- The first stretch stands at the start, and the next one behind the arrow. -/
theorem placedFrom_eq (start : Nat) (entered : Bool) :
    placedFrom start (stretchesFrom entered (pieces arrow (part ++ (found ++ rest))))
      = (start, ⟨entered, part, some found⟩)
        :: placedFrom (start + part.length + found.length)
          (stretchesFrom true (pieces arrow rest)) := by
  rw [h.stretchesFrom_eq, placedFrom]
  rfl

/-- The first arrow is exchanged for spaces, and the others behind it. -/
theorem blankArrows_eq :
    blankArrows (part ++ (found ++ rest))
      = part ++ (List.replicate found.length ' ' ++ blankArrows rest) := by
  rw [blankArrows, replaceEach, h.pieces_eq, List.flatMap_append, List.flatMap_cons,
    List.flatMap_map]
  simp [blankArrows, replaceEach]

end FirstArrow

/-- What is related to one list element by element has an element for each of that. -/
theorem exists_mem_of_forall₂ {α β : Type} {R : α → β → Prop} {list : List α} {other : List β}
    (h : List.Forall₂ R list other) {a : α} (ha : a ∈ list) : ∃ b ∈ other, R a b := by
  induction h with
  | nil => cases ha
  | @cons first next list other hfirst _ ih =>
      rcases List.mem_cons.mp ha with rfl | hmem
      · exact ⟨next, List.mem_cons_self, hfirst⟩
      · obtain ⟨b, hb, hR⟩ := ih hmem
        exact ⟨b, List.mem_cons_of_mem next hb, hR⟩

/-! ## Windows before arrows -/

/-- The stretch, at its place, is the window of the approach. -/
structure Leaves (prepared : Text) (approach : Approach) (spot : Nat × Stretch) : Prop where
  /-- The window begins with the stretch. -/
  start_eq : approach.start = spot.1
  /-- The arrow leaves the stretch. -/
  arrow_eq : spot.2.arrow = some approach.arrow.text
  /-- The stretch fills the window, and no name goes on into it. -/
  window : ∃ front, prepared.take approach.arrow.start = front ++ spot.2.text ∧
    front.length = approach.start ∧ front.getLast?.any isNameChar = false

/-- What ends with an arrow ends with no character of a name. -/
theorem IsArrow.last_append {found : Text} (h : IsArrow found) (front : Text) :
    (front ++ found).getLast?.any isNameChar = false := by
  rw [List.getLast?_append_of_ne_nil _ h.ne_nil]
  exact h.last

/-- The stretches that an arrow leaves are the windows of the approaches, in their order. -/
theorem forall₂_approachesFrom (text : Text) {front : Text}
    (hfront : front.getLast?.any isNameChar = false) (entered : Bool) :
    List.Forall₂ (Leaves (front ++ text))
      (approachesFrom front.length (occurrencesFrom front.length (pieces arrow text)))
      ((placedFrom front.length (stretchesFrom entered (pieces arrow text))).filter
        fun spot => spot.2.arrow.isSome) := by
  induction text using arrow_induction generalizing front entered with
  | last part hnone =>
      rw [stretchesFrom_of_arrowless hnone, occurrencesFrom_of_arrowless hnone]
      exact .nil
  | next part found rest hfirst ih =>
      have hbehind := ih (hfirst.isArrow.last_append (front ++ part)) true
      rw [List.length_append, List.length_append, List.append_assoc, List.append_assoc] at hbehind
      rw [hfirst.occurrencesFrom_eq, hfirst.placedFrom_eq, List.filter_cons_of_pos rfl]
      refine .cons ⟨rfl, rfl, front, ?_, rfl, hfront⟩ hbehind
      rw [← List.append_assoc, ← List.length_append, List.take_left]

/-- The windows before the arrows are the stretches that arrows leave. -/
theorem forall₂_approaches (prepared : Text) :
    List.Forall₂ (Leaves prepared) (approaches prepared)
      ((placed prepared).filter fun spot => spot.2.arrow.isSome) :=
  @forall₂_approachesFrom prepared [] rfl false

/-- In the window of an approach the endpoint is the one with which the stretch ends. -/
theorem Leaves.endpointBefore_iff {prepared : Text} {approach : Approach} {spot : Nat × Stretch}
    (h : Leaves prepared approach spot) {place : Nat} {name : Text} :
    EndpointBefore prepared approach.start approach.arrow.start place name ↔
      ∃ found, lastEndpoint? spot.2.text = some found ∧ spot.1 + found.start = place ∧
        found.text = name := by
  obtain ⟨front, hwindow, hlength, hfront⟩ := h.window
  rw [← h.start_eq]
  exact Flowchart.endpointBefore_iff hwindow hlength hfront

/-! ## Stretches behind arrows -/

/-- The stretch stands at the front of the text with its arrow, and is all of it if it has
none. -/
def Opens (text : Text) (stretch : Stretch) : Prop :=
  ∃ behind, text = stretch.text ++ (stretch.arrowText ++ behind) ∧
    (IsArrow stretch.arrowText ∨ stretch.arrowText = [] ∧ behind = [])

/-- The stretch, at its place, stands behind the arrow. -/
structure Enters (found : Occurrence) (spot : Nat × Stretch) : Prop where
  /-- The arrow stops where the stretch begins. -/
  stop_eq : found.stop = spot.1
  /-- The stretch knows of an arrow before it. -/
  entered : spot.2.entered = true
  /-- The text behind the arrow begins with the stretch. -/
  opens : Opens found.rest spot.2

/-- The first stretch begins where the text does, and each other behind an arrow. -/
theorem exists_placedFrom_eq_cons (text : Text) (start : Nat) (entered : Bool) :
    ∃ first more, placedFrom start (stretchesFrom entered (pieces arrow text))
        = (start, first) :: more ∧ first.entered = entered ∧ Opens text first ∧
      List.Forall₂ Enters (occurrencesFrom start (pieces arrow text)) more := by
  induction text using arrow_induction generalizing start entered with
  | last part hnone =>
      rw [stretchesFrom_of_arrowless hnone, occurrencesFrom_of_arrowless hnone]
      exact ⟨_, _, rfl, rfl, ⟨[], by simp [Stretch.arrowText], Or.inr ⟨rfl, rfl⟩⟩, .nil⟩
  | next part found rest hfirst ih =>
      obtain ⟨next, more, hplaced, hentered, hopens, hmore⟩ :=
        ih (start + part.length + found.length) true
      rw [hfirst.placedFrom_eq, hfirst.occurrencesFrom_eq, hplaced]
      exact ⟨_, _, rfl, rfl, ⟨rest, rfl, Or.inl hfirst.isArrow⟩,
        .cons ⟨rfl, hentered, hopens⟩ hmore⟩

/-- Behind the first stretch of a prepared line there is one for each arrow. -/
theorem exists_placed_eq_cons (prepared : Text) :
    ∃ first more, placed prepared = (0, first) :: more ∧ first.entered = false ∧
      List.Forall₂ Enters (occurrences arrow prepared) more := by
  obtain ⟨first, more, hplaced, hentered, _, hmore⟩ := exists_placedFrom_eq_cons prepared 0 false
  exact ⟨first, more, hplaced, hentered, hmore⟩

/-- An arrow does not begin with a blank. -/
theorem IsArrow.solid_append {found : Text} (h : IsArrow found) (rest : Text) :
    Solid (found ++ rest) := by
  have hink : ∀ c ∈ ['<', '-', '='], isBlank c = false := forall_mem_of_all rfl
  obtain ⟨c, more, rfl, hc⟩ := h.front
  exact Solid.cons (hink c hc) _

/-- In front of an arrow the same names are read, whatever stands behind that. -/
theorem IsArrow.leadingName?_append {found : Text} (h : IsArrow found) (front rest : Text) :
    leadingName? (front ++ (found ++ rest)) = leadingName? (front ++ found) := by
  obtain ⟨c, more, rfl, hc⟩ := h.front
  cases front with
  | nil =>
      have hink : ∀ c ∈ ['<', '-', '='], c.isAlpha = false := forall_mem_of_all rfl
      simp [leadingName?, hink c hc]
  | cons d front =>
      refine leadingName?_append_congr (List.cons_ne_nil d front) fun run => ?_
      have hwhole := h.apart []
      rw [List.append_nil] at hwhole
      exact nameRun_append_congr (h.apart rest) hwhole rfl run

/-- In front of an arrow the first endpoint is the name behind the blanks, with the arrow in sight.
-/
theorem IsArrow.span_firstEndpoint?_append {found : Text} (h : IsArrow found) (text rest : Text) :
    (firstEndpoint? (text ++ (found ++ rest))).map Occurrence.span
      = (leadingName? (trimStart text ++ found)).map
          fun name => ((indentOf text).length, name) := by
  have hblanks := indentOf_blanks text
  have hsolid : Solid (trimStart text ++ (found ++ rest)) := by
    cases htrim : trimStart text with
    | nil => exact h.solid_append rest
    | cons c more =>
        have hc := List.head?_dropWhile_not isBlank text
        rw [← trimStart, htrim] at hc
        exact Solid.cons (by simpa using hc) _
  have hcut : text ++ (found ++ rest)
      = indentOf text ++ (trimStart text ++ (found ++ rest)) := by
    rw [← List.append_assoc (indentOf text), indentOf_append_trimStart]
  rw [hcut, firstEndpoint?, hblanks.trimStart_append, hsolid.trimStart_eq,
    hblanks.indentOf_append hsolid, h.leadingName?_append, Option.map_map]
  rfl

/-- The endpoint behind an arrow is the one in its stretch, which is read with no more than the
next arrow in sight. -/
theorem Opens.firstEndpoint?_span {text : Text} {stretch : Stretch} (h : Opens text stretch) :
    (firstEndpoint? text).map Occurrence.span
      = (firstEndpoint? (stretch.text ++ stretch.arrowText)).map Occurrence.span := by
  obtain ⟨behind, rfl, harrow | ⟨_, rfl⟩⟩ := h
  · have hbehind := harrow.span_firstEndpoint?_append stretch.text behind
    have hnone := harrow.span_firstEndpoint?_append stretch.text []
    rw [List.append_nil] at hnone
    exact hbehind.trans hnone.symm
  · rw [List.append_nil]

/-- Behind an arrow the endpoint is the one with which the stretch begins. -/
theorem Enters.endpointAfter_iff {prepared : Text} {found : Occurrence} {spot : Nat × Stretch}
    (h : Enters found spot) (hfound : found ∈ occurrences arrow prepared) {place : Nat}
    {name : Text} :
    EndpointAfter prepared found.stop place name ↔
      ∃ target, firstEndpoint? (spot.2.text ++ spot.2.arrowText) = some target ∧
        spot.1 + target.start = place ∧ target.text = name := by
  obtain ⟨front, hprepared, hstart, harrow⟩ := exists_of_mem_occurrences arrow_sound hfound
  have hstop : (front ++ found.text).length = found.stop := by
    rw [List.length_append, Occurrence.stop, hstart]
  rw [Flowchart.endpointAfter_iff hprepared hstop ((isArrow_of_arrow harrow).last_append front),
    h.stop_eq, exists_span_iff, exists_span_iff, h.opens.firstEndpoint?_span]

/-! ## Names of the blanked line -/

/-- The names of a blanked line are those of its stretches at their places. -/
theorem spans_blankArrows_from (text : Text) (start : Nat) (entered : Bool) :
    (spans (blankArrows text)).map (moved start)
      = (placedFrom start (stretchesFrom entered (pieces arrow text))).flatMap fun spot =>
          (spans spot.2.text).map (moved spot.1) := by
  induction text using arrow_induction generalizing start entered with
  | last part hnone =>
      rw [stretchesFrom_of_arrowless hnone, blankArrows_of_arrowless hnone]
      simp [placedFrom]
  | next part found rest hfirst ih =>
      have hblanks : Blanks (List.replicate found.length ' ') := by
        intro c hc
        obtain rfl := List.eq_of_mem_replicate hc
        rfl
      have hgapped : Gapped (List.replicate found.length ' ' ++ blankArrows rest) := by
        intro c hc
        obtain ⟨d, more, rfl, _⟩ := hfirst.isArrow.front
        obtain rfl := Option.some.inj hc
        rfl
      rw [hfirst.placedFrom_eq, hfirst.blankArrows_eq, spans_append hgapped, hblanks.spans_append,
        List.flatMap_cons, ← ih, List.map_append, map_moved_moved, map_moved_moved,
        List.length_replicate, Nat.add_assoc]

/-- The names of the blanked line are those of the stretches, each at its place. -/
theorem spans_blankArrows (prepared : Text) :
    spans (blankArrows prepared)
      = (placed prepared).flatMap fun spot => (spans spot.2.text).map (moved spot.1) := by
  have hspans := spans_blankArrows_from prepared 0 false
  have hmoved : moved 0 = id := funext fun name => by simp [moved]
  rw [hmoved, List.map_id] at hspans
  exact hspans

/-- The endpoint before an arrow is a name of the blanked line. -/
theorem mem_spans_of_endpointBefore {prepared : Text} {approach : Approach}
    (happroach : approach ∈ approaches prepared) {place : Nat} {name : Text}
    (h : EndpointBefore prepared approach.start approach.arrow.start place name) :
    (place, name) ∈ spans (blankArrows prepared) := by
  obtain ⟨spot, hmem, hwindow⟩ := exists_mem_of_forall₂ (forall₂_approaches prepared) happroach
  obtain ⟨hplaced, _⟩ := List.mem_filter.mp hmem
  obtain ⟨source, hlast, rfl, rfl⟩ := hwindow.endpointBefore_iff.mp h
  obtain ⟨hname, _⟩ := lastEndpoint?_eq_some_iff.mp hlast
  rw [spans_blankArrows]
  exact List.mem_flatMap.mpr
    ⟨spot, hplaced, List.mem_map.mpr ⟨source.span, List.mem_map_of_mem hname, rfl⟩⟩

end Flowchart
