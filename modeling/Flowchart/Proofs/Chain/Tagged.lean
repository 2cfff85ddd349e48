import Flowchart.Proofs.Chain.Names

/-!
# Tagged chains

Behind an endpoint of a chain a class tag may stand.  Preparation drops it, and
what is left is the chain without it, unless the arrow follows the tag at once and
begins with a hyphen: a class name may have hyphens, so the tag takes those of the
arrow with it.

Main statement: `extractNames_tagged`.
-/

namespace Flowchart

/-- A class tag of letters, digits and underscores. -/
structure ClassTag where
  /-- The name of the class. -/
  name : Text
  /-- The name is not empty. -/
  ne_nil : name ≠ []
  /-- There are no hyphens in the name. -/
  plain : ∀ c ∈ name, c.isAlphanum = true ∨ c = '_'

/-- The characters of a tag. -/
def ClassTag.text (tag : ClassTag) : Text :=
  ':' :: ':' :: ':' :: tag.name

/-- The characters of a tag, if there is one. -/
def tagText (tag : Option ClassTag) : Text :=
  (tag.map ClassTag.text).getD []

/-- A leg whose endpoint may have a tag. -/
structure TaggedLeg extends Leg where
  /-- The tag behind the endpoint. -/
  tag : Option ClassTag

/-- The arrow is kept from the tag: by a blank, or by its first character. -/
def TaggedLeg.Apart (leg : TaggedLeg) : Prop :=
  leg.tag.isSome = true → leg.gap = [] → leg.arrow.text.head? ≠ some '-'

/-- The characters of legs and of the endpoint behind them, with their tags. -/
def taggedText : List TaggedLeg → Endpoint → Option ClassTag → Text
  | [], last, tag => last.text ++ tagText tag
  | leg :: legs, last, tag =>
    leg.source.text ++ tagText leg.tag ++ leg.gap ++ leg.arrow.text ++ leg.space
      ++ taggedText legs last tag

/-- A chain whose endpoints may have tags. -/
structure TaggedChain where
  /-- The blanks in front. -/
  indent : Text
  /-- The endpoints that an arrow leaves. -/
  legs : List TaggedLeg
  /-- The last endpoint. -/
  last : Endpoint
  /-- The tag behind the last endpoint. -/
  lastTag : Option ClassTag
  /-- There are only blanks in front. -/
  blankIndent : Blanks indent

namespace TaggedChain

/-- The characters of a tagged chain. -/
def text (tagged : TaggedChain) : Text :=
  tagged.indent ++ taggedText tagged.legs tagged.last tagged.lastTag

/-- The chain without its tags. -/
def chain (tagged : TaggedChain) : Chain where
  indent := tagged.indent
  legs := tagged.legs.map (·.toLeg)
  last := tagged.last
  blankIndent := tagged.blankIndent

end TaggedChain

/-! ## Tags -/

namespace ClassTag

variable (tag : ClassTag)

/-- The characters of a tag belong to names. -/
theorem isNameChar_of_mem {c : Char} (hc : c ∈ tag.text) : isNameChar c = true := by
  have hcolon : isNameChar ':' = true := rfl
  simp only [ClassTag.text, List.mem_cons] at hc
  rcases hc with rfl | rfl | rfl | hname
  · exact hcolon
  · exact hcolon
  · exact hcolon
  · rcases tag.plain c hname with halphanum | rfl
    · simp [isNameChar, halphanum]
    · rfl

/-- A class tag belongs to no shape and to no literal. -/
theorem neutral : Neutral tag.text := by
  have hall : ∀ c ∈ enclosers, isNameChar c = false := forall_mem_of_all rfl
  intro c hc hmem
  have hname := tag.isNameChar_of_mem hc
  rw [hall c hmem] at hname
  cases hname

/-- A tag is found whole where its class name ends. -/
theorem classTag_append {rest : Text} (hrest : ∀ c, rest.head? = some c → isTagChar c = false) :
    classTag none (tag.text ++ rest) = some tag.text := by
  have hname : ∀ c ∈ tag.name, isTagChar c = true := by
    intro c hc
    rcases tag.plain c hc with halphanum | rfl
    · simp [isTagChar, halphanum]
    · rfl
  have hbehind : rest.takeWhile isTagChar = [] := by
    cases rest with
    | nil => rfl
    | cons c rest => simp [hrest c rfl]
  have htake : (tag.name ++ rest).takeWhile isTagChar = tag.name := by
    rw [List.takeWhile_append_of_pos hname, hbehind, List.append_nil]
  have hnonempty : tag.name.isEmpty = false := List.isEmpty_eq_false_iff.mpr tag.ne_nil
  unfold ClassTag.text
  rw [List.cons_append, List.cons_append, List.cons_append, classTag_colons, htake, hnonempty]
  rfl

/-- A name goes on through a tag. -/
theorem isName_append {id : Text} (h : IsName id) : IsName (id ++ tag.text) := by
  obtain ⟨c, run, rfl, halpha, hrun⟩ := isName_iff.mp h
  refine isName_iff.mpr ⟨c, run ++ tag.text, rfl, halpha, ?_⟩
  have htag := nameRun_of_isNameChar fun c hc => tag.isNameChar_of_mem hc
  rw [nameRun_append_run hrun fun _ => rfl, htag]

/-- A name with a tag in it ends wherever no name goes on. -/
theorem endsName {id rest : Text} (h : nameRun rest = []) : EndsName (id ++ tag.text) rest := by
  refine ⟨h, fun hlast => ?_⟩
  have hhyphen : isNameChar '-' = false := rfl
  have hmem : '-' ∈ tag.text := by
    have htext : tag.text ≠ [] := List.cons_ne_nil _ _
    rw [List.getLast?_append_of_ne_nil _ htext] at hlast
    exact List.mem_of_getLast? hlast
  rw [tag.isNameChar_of_mem hmem] at hhyphen
  cases hhyphen

/-- A word with a tag in it is none of some words of letters. -/
theorem contains_lower {words : List Text}
    (hwords : ∀ word ∈ words, word.all Char.isAlpha = true) (id : Text) :
    words.contains (lower (id ++ tag.text)) = false := by
  have hcolon : ':' ∈ id ++ tag.text := List.mem_append_right id List.mem_cons_self
  exact contains_lower_of_mem hwords hcolon rfl rfl

end ClassTag

/-- In front of a tag a part keeps its characters, though it may end in colons.  Of the colons that
begin in the part the third or an earlier one lies in the tag, and behind it comes one more colon
instead of a class name. -/
theorem Untagged.dropClassTags_text {part rest : Text} (h : Untagged part) (tag : ClassTag)
    (hrest : ∀ c, rest.head? = some c → isTagChar c = false) :
    dropClassTags (part ++ (tag.text ++ rest)) = part ++ dropClassTags rest := by
  have htag := dropClassTags_tag (tag.classTag_append hrest)
  rw [← htag]
  refine classTag_blind.replaceEach_append _ fun front c back hpart => ?_
  by_cases hc : c = ':'
  · subst hc
    cases back with
    | nil => rfl
    | cons d back =>
        cases back with
        | nil =>
            by_cases hd : d = ':'
            · subst hd
              rfl
            · exact classTag_eq_none fun behind hcolons => hd (by simp_all)
        | cons e back =>
            refine classTag_eq_none fun behind hcolons => h ⟨front, back, ?_⟩
            simp_all
  · exact classTag_eq_none fun behind hcolons => hc (List.cons.inj hcolons).1

/-! ## Preparation -/

/-- Nothing in a tag, if there is one, belongs to a shape or a literal. -/
theorem tagText_neutral (tag : Option ClassTag) : Neutral (tagText tag) := by
  cases tag with
  | none => exact nofun
  | some tag => exact tag.neutral

/-- There are no quotes in tagged legs and in the endpoint behind them. -/
theorem taggedText_unquoted (legs : List TaggedLeg) (last : Endpoint) (tag : Option ClassTag) :
    Unquoted (taggedText legs last tag) := by
  induction legs with
  | nil => exact last.unquoted.append (tagText_neutral tag).unquoted
  | cons leg legs ih =>
      have htag := (tagText_neutral leg.tag).unquoted
      have hgap := leg.blankGap.neutral.unquoted
      have hspace := leg.blankSpace.neutral.unquoted
      have harrow := leg.arrow.neutral.unquoted
      have hsource := leg.source.unquoted.append htag
      exact (((hsource.append hgap).append harrow).append hspace).append ih

/-- The leg with its tag but without the label of its shape. -/
def TaggedLeg.masked (leg : TaggedLeg) : TaggedLeg :=
  { leg with toLeg := leg.toLeg.masked }

/-- Masking leaves the tags alone. -/
theorem maskShapes_taggedText (legs : List TaggedLeg) (last : Endpoint)
    (tag : Option ClassTag) :
    maskShapes (taggedText legs last tag)
      = taggedText (legs.map TaggedLeg.masked) last.masked tag := by
  induction legs with
  | nil =>
      have htag := (tagText_neutral tag).maskShapes_append []
      rw [List.append_nil] at htag
      rw [taggedText, last.maskShapes_append, htag, maskShapes, maskFrom, List.append_nil]
      rfl
  | cons leg legs ih =>
      simp only [taggedText, List.map_cons, List.append_assoc]
      rw [leg.source.maskShapes_append, (tagText_neutral leg.tag).maskShapes_append,
        leg.blankGap.neutral.maskShapes_append, leg.arrow.neutral.maskShapes_append,
        leg.blankSpace.neutral.maskShapes_append, ih]
      rfl

/-- The tag of an endpoint is dropped, and the endpoint kept. -/
theorem Endpoint.dropClassTags_tagText {endpoint : Endpoint} {tag : Option ClassTag}
    {rest : Text} (hends : EndsName endpoint.id (endpoint.masked.shapeText ++ rest))
    (hrest : tag.isSome = true → ∀ c, rest.head? = some c → isTagChar c = false) :
    dropClassTags (endpoint.masked.text ++ (tagText tag ++ rest))
      = endpoint.masked.text ++ dropClassTags rest := by
  cases tag with
  | none => exact Endpoint.dropClassTags_append hends
  | some tag =>
      have hbehind := hrest rfl
      have htag := dropClassTags_tag (tag.classTag_append hbehind)
      rw [← htag]
      cases hshape : endpoint.masked.shape with
      | some shape =>
          refine Endpoint.dropClassTags_append ?_
          unfold Endpoint.shapeText
          rw [hshape]
          exact endsName_shape _ shape _
      | none =>
          have htext : endpoint.masked.text = endpoint.id := by
            rw [endpoint.masked_text, Endpoint.shapeText, hshape]
            exact List.append_nil _
          rw [htext, htag]
          exact endpoint.untagged.dropClassTags_text tag hbehind

/-- No blank belongs to a class name. -/
theorem isTagChar_of_isBlank {c : Char} (h : isBlank c = true) : isTagChar c = false := by
  have hname := isNameChar_of_isBlank h
  have hhyphen : c ≠ '-' := by
    rintro rfl
    exact absurd h (by decide)
  simp only [isNameChar, Bool.or_eq_false_iff] at hname
  simp [isTagChar, hname.1, hhyphen]

/-- Where tag and arrow are kept apart the class name ends behind the tag. -/
theorem TaggedLeg.Apart.isTagChar_eq {leg : TaggedLeg} (h : leg.Apart)
    (htag : leg.tag.isSome = true) (rest : Text) :
    ∀ c, (leg.gap ++ (leg.arrow.text ++ rest)).head? = some c → isTagChar c = false := by
  intro c hc
  cases hgap : leg.gap with
  | cons d gap =>
      rw [hgap] at hc
      obtain rfl := Option.some.inj hc
      refine isTagChar_of_isBlank (leg.blankGap d ?_)
      rw [hgap]
      exact List.mem_cons_self
  | nil =>
      rw [hgap] at hc
      have hmark := leg.arrow.head?_text rest c hc
      have harrow := h htag hgap
      obtain ⟨d, more, htext, _⟩ := leg.arrow.exists_cons
      rw [htext] at harrow hc
      obtain rfl := Option.some.inj hc
      simp only [List.mem_cons, List.not_mem_nil, or_false] at hmark
      rcases hmark with rfl | rfl | rfl
      · rfl
      · exact absurd rfl harrow
      · rfl

/-- The tags of a chain are dropped where they are kept from the arrows. -/
theorem dropClassTags_taggedText {legs : List TaggedLeg} (hapart : ∀ leg ∈ legs, leg.Apart)
    (last : Endpoint) (tag : Option ClassTag) :
    dropClassTags (taggedText (legs.map TaggedLeg.masked) last.masked tag)
      = legsText ((legs.map (·.toLeg)).map Leg.bare) last.masked := by
  induction legs with
  | nil =>
      have hlast := @Endpoint.dropClassTags_tagText last tag [] last.masked.endsName nofun
      simpa [taggedText, legsText, dropClassTags_nil] using hlast
  | cons leg legs ih =>
      have hleg := hapart leg List.mem_cons_self
      have hrest := ih fun other hother => hapart other (List.mem_cons_of_mem leg hother)
      simp only [taggedText, legsText, List.map_cons, List.append_assoc]
      have hsource : leg.masked.source = leg.source.masked := rfl
      have htag : leg.masked.tag = leg.tag := rfl
      rw [hsource, htag, Endpoint.dropClassTags_tagText (leg.masked.endsName _)
          fun htag => hleg.isTagChar_eq htag _,
        dropClassTags_append_of_no_colon leg.masked.blankGap.ne_colon,
        Arrow.dropClassTags_append,
        dropClassTags_append_of_no_colon leg.masked.blankSpace.ne_colon, hrest]
      rfl

/-- A tagged chain is prepared as the chain without its tags is. -/
theorem prepareLine_tagged {tagged : TaggedChain} (hapart : ∀ leg ∈ tagged.legs, leg.Apart) :
    prepareLine tagged.text = prepareLine tagged.chain.text := by
  have hunquoted : Unquoted tagged.text :=
    tagged.blankIndent.neutral.unquoted.append
      (taggedText_unquoted tagged.legs tagged.last tagged.lastTag)
  rw [prepareLine_chain, prepareLine, hunquoted.extractLiterals_line, TaggedChain.text,
    tagged.blankIndent.neutral.maskShapes_append, maskShapes_taggedText,
    dropClassTags_append_of_no_colon tagged.blankIndent.ne_colon,
    dropClassTags_taggedText hapart]
  rfl

/-! ## The front of a tagged chain -/

/-- A tag makes no keyword of an endpoint: it goes on the name, or stands behind the
shape. -/
theorem Endpoint.exists_front_tagText (endpoint : Endpoint) (tag : Option ClassTag)
    {gap rest : Text} (hgap : Blanks gap)
    (hends : EndsName endpoint.id (endpoint.shapeText ++ (gap ++ rest)))
    (hmark : ∀ c, rest.head? = some c → c ∈ ['<', '-', '=']) :
    ∃ id behind, endpoint.text ++ (tagText tag ++ (gap ++ rest)) = id ++ behind ∧
      Front id behind := by
  cases tag with
  | none =>
      have hfront := endpoint.front hgap hends hmark
      exact ⟨endpoint.id, _, List.append_assoc _ _ (gap ++ rest), hfront⟩
  | some tag =>
      unfold Endpoint.text Endpoint.shapeText at *
      cases hshape : endpoint.shape with
      | some shape =>
          exact ⟨endpoint.id, _, List.append_assoc _ _ _,
            .of_opener endpoint.isName endpoint.isNode shape.bracket _⟩
      | none =>
          rw [hshape] at hends
          refine ⟨endpoint.id ++ tag.text, gap ++ rest, by simp [tagText], ?_⟩
          exact
            { isName := tag.isName_append endpoint.isName
              isNode := tag.contains_lower keywords_letters endpoint.id
              ends := tag.endsName hends.1
              mark := isAscii_of_head?_gap hgap hmark
              isPlain := fun _ => tag.contains_lower statementWords_letters endpoint.id }

/-- A tagged chain begins with a name too. -/
theorem TaggedChain.exists_front (tagged : TaggedChain) :
    ∃ id rest, tagged.text = tagged.indent ++ (id ++ rest) ∧ Front id rest := by
  unfold TaggedChain.text
  cases tagged.legs with
  | nil =>
      obtain ⟨id, behind, htext, hfront⟩ := tagged.last.exists_front_tagText tagged.lastTag
        Blanks.nil tagged.last.endsName nofun
      rw [List.append_nil, List.append_nil] at htext
      exact ⟨id, behind, by rw [taggedText, htext], hfront⟩
  | cons leg legs =>
      obtain ⟨id, behind, htext, hfront⟩ := leg.source.exists_front_tagText leg.tag leg.blankGap
        (leg.endsName _) (leg.arrow.head?_text
          (leg.space ++ taggedText legs tagged.last tagged.lastTag))
      exact ⟨id, behind, by simp only [taggedText, List.append_assoc, htext], hfront⟩

/-- Legs are no longer than with their tags. -/
theorem length_legsText_le_taggedText (legs : List TaggedLeg) (last : Endpoint)
    (tag : Option ClassTag) :
    (legsText (legs.map (·.toLeg)) last).length ≤ (taggedText legs last tag).length := by
  induction legs with
  | nil => simp [legsText, taggedText]
  | cons leg legs ih =>
      simp only [legsText, taggedText, List.map_cons, List.length_append]
      omega

/-- **Tags do not change the names of a chain**, where they are kept from the arrows. -/
theorem extractNames_tagged (limits : Limits) (tagged : TaggedChain)
    (hapart : ∀ leg ∈ tagged.legs, leg.Apart)
    (hlength : (tagged.text.length : Int) ≤ limits.maxLineLength) :
    extractNames limits [tagged.text] = extractNames limits [tagged.chain.text] := by
  have hprepared := prepareLine_tagged hapart
  have hshorter : tagged.chain.text.length ≤ tagged.text.length := by
    have hlegs := length_legsText_le_taggedText tagged.legs tagged.last tagged.lastTag
    simpa [TaggedChain.text, Chain.text, TaggedChain.chain] using hlegs
  obtain ⟨id, rest, htext, hfront⟩ := tagged.exists_front
  rw [htext] at hlength hprepared hshorter ⊢
  exact hfront.extractNames_eq tagged.blankIndent hlength hshorter hprepared

/-- The tagged chain ` A:::::c1<-->|x:::y|B-:::z ===>C[d (e)]:::_`. -/
def classChain : TaggedChain where
  indent := [' ']
  legs :=
    [{ source := ⟨"A::".toList, none, rfl, by decide, rfl, fun _ => rfl⟩
       gap := []
       arrow :=
        { lineArrow with
          tailed := true
          label := some ⟨[], "x:::y".toList, Blanks.nil, forall_mem_of_all rfl,
            forall_mem_of_all rfl, forall_mem_of_all rfl⟩ }
       space := []
       blankGap := Blanks.nil
       blankSpace := Blanks.nil
       apart := by decide
       tag := some ⟨"c1".toList, by decide, forall_mem_of_all rfl⟩ },
     { source := ⟨"B-".toList, none, rfl, by decide, rfl, fun _ => rfl⟩
       gap := [' ']
       arrow := ⟨false, .solid true true 3 (by decide), none⟩
       space := []
       blankGap := Blanks.space
       blankSpace := Blanks.nil
       apart := fun _ _ => List.cons_ne_nil _ _
       tag := some ⟨"z".toList, by decide, forall_mem_of_all rfl⟩ }]
  last := ⟨"C".toList,
    some ⟨.square, "d (e)".toList,
      .plain rfl (.plain rfl (.group .round (.plain rfl .nil) .nil)), forall_mem_of_all rfl⟩,
    rfl, by decide, rfl, nofun⟩
  lastTag := some ⟨"_".toList, by decide, forall_mem_of_all rfl⟩
  blankIndent := Blanks.space

/-- Tags behind a name that ends in colons, behind one that ends in a hyphen, and behind
a shape. -/
theorem extractNames_tagged_classes :
    classChain.text = " A:::::c1<-->|x:::y|B-:::z ===>C[d (e)]:::_".toList ∧
      (∀ leg ∈ classChain.legs, leg.Apart) ∧
      extractNames {} [classChain.text] = extractNames {} [classChain.chain.text] ∧
      extractNames {} [classChain.chain.text]
        = ⟨["A::".toList, "B-".toList, "C".toList],
           ["A::".toList, "B-".toList, "C".toList]⟩ := by
  have hapart : ∀ leg ∈ classChain.legs, leg.Apart := by
    simp [classChain, TaggedLeg.Apart, Arrow.text, Arrow.tailText]
  exact ⟨by decide, hapart, extractNames_tagged {} classChain hapart (by decide), by decide⟩

/-- The tagged chain `A:::c-->B`. -/
def hyphenChain : TaggedChain where
  indent := []
  legs := [{ toLeg := legA, tag := some ⟨"c".toList, by decide, forall_mem_of_all rfl⟩ }]
  last := nodeB
  lastTag := none
  blankIndent := Blanks.nil

/-- A tag right before hyphens takes them, and no arrow is left. -/
theorem extractNames_hyphenChain :
    hyphenChain.text = "A:::c-->B".toList ∧
      extractNames {} [hyphenChain.text] = ⟨["A".toList, "B".toList], []⟩ ∧
      extractNames {} [hyphenChain.chain.text]
        = ⟨["A".toList], ["A".toList, "B".toList]⟩ := by
  refine ⟨by decide, by decide, by decide⟩

end Flowchart
