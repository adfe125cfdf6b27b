import Stencil.Proofs.TwinOperations

/-!
# Errors in two worlds that are alike

Making, describing, raising and handling errors do the same in worlds that are alike, and so does converting values to
text.
-/

namespace Stencil

open Effect Script Manners

namespace Terms

variable {terms : Terms} {bond : Bond} {α : Type} {good : Bond → α → α → Prop} {value value' : Value}
  {call call' : Caller}

/-! ## Repeating for each item -/

theorem twin_forIn {ι : Type} {R : ι → ι → Prop} {items items' : List ι} (alike : List.Forall₂ R items items')
    {body body' : ι → PUnit → Effect (ForInStep PUnit)}
    (each : ∀ later, bond ≤ later → ∀ item item', R item item' →
      terms.Twin later Equal (body item ⟨⟩) (body' item' ⟨⟩)) :
    terms.Twin bond Whatever (forIn items ⟨⟩ body) (forIn items' ⟨⟩ body') := by
  induction alike generalizing bond with
  | nil => exact twin_pure fun _ _ => trivial
  | @cons item item' items items' same _ ih =>
      rw [List.forIn_cons, List.forIn_cons]
      refine (each _ le_rfl _ _ same).bind fun later grown step _ equal => ?_
      subst equal
      cases step with
      | done => exact twin_pure fun _ _ => trivial
      | yield => exact ih fun later' more => each later' (grown.trans more)

/-! ## Making errors -/

theorem notes_same (names : List String) {values values' : List Value} (each : terms.Sames bond values values') :
    terms.SameEntries bond (notes names values) (notes names values') :=
  Alike.zip _ each fun _ _ _ _ => id

theorem sames_take {values values' : List Value} (each : terms.Sames bond values values') (count : Nat) :
    terms.Sames bond (values.take count) (values'.take count) :=
  List.forall₂_take count each

theorem sames_drop {values values' : List Value} (each : terms.Sames bond values values') (count : Nat) :
    terms.Sames bond (values.drop count) (values'.drop count) :=
  List.forall₂_drop count each

theorem twin_raiseMiscounted (bound : Text) (expected given : Nat) :
    terms.Twin bond good (raiseMiscounted bound expected given) (raiseMiscounted bound expected given) :=
  twin_raiseText _ _

theorem twin_requireTextAt (lead : Text) (place : Nat) (same : terms.Same bond value value') :
    terms.Twin bond Whatever (requireTextAt lead place value) (requireTextAt lead place value') :=
  twin_requireTextFor _ same

theorem twin_requireNumber (same : terms.Same bond value value') :
    terms.Twin bond Whatever (requireNumber value) (requireNumber value') := by
  unfold requireNumber
  rw [toInt?_same same]
  split
  · exact twin_pure fun _ _ => trivial
  · exact twin_raiseAbout same _ _

/-- What is noted of the second file of an error about the system. -/
def secondNotes : List Value → List (Text × Value)
  | [_, .none] | [] | [_] => []
  | _ :: second :: _ => notes ["filename2"] [second]

theorem secondNotes_same {others others' : List Value} (each : terms.Sames bond others others') :
    terms.SameEntries bond (secondNotes others) (secondNotes others') := by
  cases each with
  | nil => exact .nil
  | cons _ each =>
      cases each with
      | nil => exact .nil
      | cons same each =>
          cases each with
          | nil =>
              cases same with
              | none => exact .nil
              | _ => exact notes_same _ (.cons (by constructor <;> assumption) .nil)
          | cons same' each =>
              cases same with
              | none => exact notes_same _ (.cons .none .nil)
              | _ => exact notes_same _ (.cons (by constructor <;> assumption) .nil)

theorem systemIncident_same (kind : ErrorKind) {arguments arguments' : List Value}
    (each : terms.Sames bond arguments arguments') :
    terms.SameIncident bond (systemIncident kind arguments) (systemIncident kind arguments') := by
  have plain (kind : ErrorKind) {attributes attributes' : List (Text × Value)}
      (noted : terms.SameEntries bond attributes attributes') :
      terms.SameIncident bond ⟨kind, arguments, attributes, none, [], none⟩
        ⟨kind, arguments', attributes', none, [], none⟩ :=
    ⟨rfl, each, noted, rfl, rfl, rfl⟩
  unfold systemIncident
  extract_lets made made'
  have kinds : made' = made := by
    unfold made made'
    cases kind with
    | system trouble =>
        cases trouble with
        | some => rfl
        | none =>
            cases each with
            | nil => rfl
            | cons same each =>
                cases each with
                | nil => rfl
                | cons =>
                    dsimp only
                    rw [toInt?_same same]
    | _ => rfl
  clear_value made made'
  subst kinds
  cases each with
  | nil => exact plain _ .nil
  | @cons code code' _ _ number each =>
      cases each with
      | nil => exact plain _ .nil
      | @cons words words' _ _ text more =>
          have both : terms.SameEntries bond _ _ := notes_same ["errno", "strerror"] (.cons number (.cons text .nil))
          cases more with
          | nil => exact plain _ both
          | @cons file file' others others' held more =>
              have named (name : String) := both.append (notes_same [name] (.cons held .nil))
              have given : terms.SameIncident bond
                  (if decide (made' = .system (some .blocking)) && file.toInt?.isSome then
                      ⟨made', code :: words :: file :: others, notes ["errno", "strerror"] [code, words] ++ notes ["characters_written"] [file],
                        none, [], none⟩
                    else ⟨made', [code, words], notes ["errno", "strerror"] [code, words] ++ notes ["filename"] [file] ++ secondNotes others, none, [], none⟩)
                  (if decide (made' = .system (some .blocking)) && file'.toInt?.isSome then
                      ⟨made', code' :: words' :: file' :: others', notes ["errno", "strerror"] [code', words'] ++ notes ["characters_written"] [file'],
                        none, [], none⟩
                    else ⟨made', [code', words'], notes ["errno", "strerror"] [code', words'] ++ notes ["filename"] [file'] ++ secondNotes others', none, [], none⟩) := by
                rw [toInt?_same held]
                split
                · exact plain _ (named _)
                · exact ⟨rfl, .cons number (.cons text .nil), (named _).append (secondNotes_same more), rfl, rfl, rfl⟩
              cases held with
              | none => exact plain _ both
              | _ => exact given

theorem twin_incident {incident incident' : Incident} (same : terms.SameIncident bond incident incident') :
    terms.Twin bond terms.SameIncident (pure incident) (pure incident') :=
  twin_pure fun _ grown => same.mono grown

theorem twin_malformedIncident (calls : terms.TwinCalls bond call call') (kind : ErrorKind)
    {arguments arguments' : List Value} (each : terms.Sames bond arguments arguments') :
    terms.Twin bond terms.SameIncident (malformedIncident call kind arguments) (malformedIncident call' kind arguments') := by
  have message := notes_same ["msg"] (sames_take each 1)
  have plain : terms.Twin bond terms.SameIncident
      (pure ⟨kind, arguments, notes ["msg"] (arguments.take 1), none, [], none⟩)
      (pure ⟨kind, arguments', notes ["msg"] (arguments'.take 1), none, [], none⟩) :=
    twin_incident ⟨rfl, each, message, rfl, rfl, rfl⟩
  unfold malformedIncident
  dsimp only
  have all := each
  cases each with
  | nil => exact plain
  | cons _ each =>
      cases each with
      | nil => exact plain
      | cons place each =>
          cases each with
          | cons => exact plain
          | nil =>
              refine (twin_valuesIn calls place).bind fun later grown details details' each => ?_
              rw [each.length_eq]
              split
              · exact twin_raiseMiscounted _ _ _
              · split
                · exact twin_raiseMiscounted _ _ _
                · split
                  · exact twin_raiseText _ _
                  · exact twin_incident ⟨rfl, Sames.mono grown all,
                      (SameEntries.mono grown message).append (notes_same _ each), rfl, rfl, rfl⟩

theorem twin_unicodeDetails (kind : ErrorKind) (count : Nat) {arguments arguments' lead lead' : List Value}
    {subject subject' first first' last last' reason reason' : Value} (each : terms.Sames bond arguments arguments')
    (ofLead : terms.Sames bond lead lead') (ofSubject : terms.Same bond subject subject')
    (ofFirst : terms.Same bond first first') (ofLast : terms.Same bond last last')
    (ofReason : terms.Same bond reason reason') :
    terms.Twin bond terms.SameIncident
      (do
        for encoding in lead do
          requireTextAt [] 1 encoding
        if kind != .decoding then requireTextAt [] (count - 3) subject
        requireNumber first
        requireNumber last
        requireTextAt [] count reason
        if kind = .decoding then raiseAbout subject "a bytes-like object is required, not '" ['\'']
        else
          let details :=
            notes ["encoding"] lead ++ notes ["object", "start", "end", "reason"] [subject, first, last, reason]
          return ⟨kind, arguments, details, none, [], none⟩)
      (do
        for encoding in lead' do
          requireTextAt [] 1 encoding
        if kind != .decoding then requireTextAt [] (count - 3) subject'
        requireNumber first'
        requireNumber last'
        requireTextAt [] count reason'
        if kind = .decoding then raiseAbout subject' "a bytes-like object is required, not '" ['\'']
        else
          let details :=
            notes ["encoding"] lead' ++ notes ["object", "start", "end", "reason"] [subject', first', last', reason']
          return ⟨kind, arguments', details, none, [], none⟩) := by
  have details {later : Bond} (grown : bond ≤ later) : terms.SameIncident later
      ⟨kind, arguments, notes ["encoding"] lead ++ notes ["object", "start", "end", "reason"] [subject, first, last, reason],
        none, [], none⟩
      ⟨kind, arguments',
        notes ["encoding"] lead' ++ notes ["object", "start", "end", "reason"] [subject', first', last', reason'],
        none, [], none⟩ :=
    ⟨rfl, Sames.mono grown each, SameEntries.mono grown ((notes_same _ ofLead).append
      (notes_same _ (.cons ofSubject (.cons ofFirst (.cons ofLast (.cons ofReason .nil)))))), rfl, rfl, rfl⟩
  have rest {later : Bond} (grown : bond ≤ later) : terms.Twin later terms.SameIncident
      (do
        requireNumber first
        requireNumber last
        requireTextAt [] count reason
        if kind = .decoding then raiseAbout subject "a bytes-like object is required, not '" ['\'']
        else
          let details :=
            notes ["encoding"] lead ++ notes ["object", "start", "end", "reason"] [subject, first, last, reason]
          return ⟨kind, arguments, details, none, [], none⟩)
      (do
        requireNumber first'
        requireNumber last'
        requireTextAt [] count reason'
        if kind = .decoding then raiseAbout subject' "a bytes-like object is required, not '" ['\'']
        else
          let details :=
            notes ["encoding"] lead' ++ notes ["object", "start", "end", "reason"] [subject', first', last', reason']
          return ⟨kind, arguments', details, none, [], none⟩) := by
    refine (twin_requireNumber (ofFirst.mono grown)).bind fun _ more _ _ _ => ?_
    have grown := grown.trans more
    refine (twin_requireNumber (ofLast.mono grown)).bind fun _ more _ _ _ => ?_
    have grown := grown.trans more
    refine (twin_requireTextAt _ _ (ofReason.mono grown)).bind fun _ more _ _ _ => ?_
    have grown := grown.trans more
    split
    · exact twin_raiseAbout (ofSubject.mono grown) _ _
    · exact twin_incident (details grown)
  refine (twin_forIn ofLead fun later grown item item' same => ?_).bind fun later grown _ _ _ => ?_
  · exact (twin_requireTextAt _ _ (same.mono grown)).bind fun _ _ _ _ _ => twin_equal _
  · dsimp only
    split
    · exact (twin_requireTextAt _ _ (ofSubject.mono grown)).bind fun _ more _ _ _ => rest (grown.trans more)
    · exact rest grown

theorem twin_unicodeIncident (kind : ErrorKind) {arguments arguments' : List Value}
    (each : terms.Sames bond arguments arguments') :
    terms.Twin bond terms.SameIncident (unicodeIncident kind arguments) (unicodeIncident kind arguments') := by
  have parts (named : Bool) : ∃ lead rest lead' rest',
      (if named then (arguments.take 1, arguments.drop 1) else ([], arguments)) = (lead, rest) ∧
        (if named then (arguments'.take 1, arguments'.drop 1) else ([], arguments')) = (lead', rest') ∧
          terms.Sames bond lead lead' ∧ terms.Sames bond rest rest' := by
    cases named with
    | false => exact ⟨_, _, _, _, rfl, rfl, .nil, each⟩
    | true => exact ⟨_, _, _, _, rfl, rfl, sames_take each 1, sames_drop each 1⟩
  unfold unicodeIncident
  extract_lets named count
  clear_value count
  obtain ⟨lead, rest, lead', rest', parted, parted', ofLead, ofRest⟩ := parts named
  rw [parted, parted']
  dsimp only
  rw [each.length_eq]
  cases ofRest with
  | nil => exact twin_raiseMiscounted _ _ _
  | cons ofSubject ofRest =>
      cases ofRest with
      | nil => exact twin_raiseMiscounted _ _ _
      | cons ofFirst ofRest =>
          cases ofRest with
          | nil => exact twin_raiseMiscounted _ _ _
          | cons ofLast ofRest =>
              cases ofRest with
              | nil => exact twin_raiseMiscounted _ _ _
              | cons ofReason ofRest =>
                  cases ofRest with
                  | cons => exact twin_raiseMiscounted _ _ _
                  | nil =>
                      dsimp only
                      rw [ofLead.length_eq]
                      split
                      · exact twin_raiseMiscounted _ _ _
                      · exact twin_unicodeDetails kind count each ofLead ofSubject ofFirst ofLast ofReason

theorem twin_groupIncident (kind : ErrorKind) {arguments arguments' : List Value}
    (each : terms.Sames bond arguments arguments') :
    terms.Twin bond terms.SameIncident (groupIncident kind arguments) (groupIncident kind arguments') := by
  have all := each
  have wrong : terms.Twin bond terms.SameIncident
      (raiseText .typing (("BaseExceptionGroup.__new__() " : Text) ++ "takes exactly 2 arguments ("
        ++ Text.ofNat arguments.length ++ " given)"))
      (raiseText .typing (("BaseExceptionGroup.__new__() " : Text) ++ "takes exactly 2 arguments ("
        ++ Text.ofNat arguments'.length ++ " given)")) := by
    rw [each.length_eq]
    exact twin_raiseText _ _
  unfold groupIncident
  dsimp only
  cases each with
  | nil => exact wrong
  | cons message each =>
      cases each with
      | nil => exact wrong
      | cons gathered each =>
          cases each with
          | cons => exact wrong
          | @nil =>
              refine (twin_requireTextAt _ _ message).bind fun later grown _ _ _ =>
                twin_read fun later' more world world' matched => ?_
              have grown := grown.trans more
              have values := sequenceValues?_same matched (gathered.mono grown)
              revert values
              generalize sequenceValues? world _ = found, sequenceValues? world' _ = found'
              intro values
              cases values with
              | none => exact twin_raiseText _ _
              | @some errors errors' held =>
                  have kinds := kindsIn_same matched 0 held
                  have noted := notes_same ["message", "exceptions"]
                    (.cons (message.mono grown) (.cons (.tuples later'.shared held) .nil))
                  cases held with
                  | nil => exact twin_raiseText _ _
                  | cons same held =>
                      dsimp only
                      rw [kinds]
                      split
                      · exact twin_raiseText _ _
                      · split
                        · exact twin_incident ⟨rfl, Sames.mono grown all, noted, rfl, rfl, rfl⟩
                        · split
                          · exact twin_raiseText _ _
                          · exact twin_incident ⟨rfl, Sames.mono grown all, noted, rfl, rfl, rfl⟩

theorem twin_newIncident (calls : terms.TwinCalls bond call call') (kind : ErrorKind) {arguments arguments' : List Value}
    (each : terms.Sames bond arguments arguments') :
    terms.Twin bond terms.SameIncident (newIncident call kind arguments) (newIncident call' kind arguments') := by
  have saying (kind : ErrorKind) {attributes attributes' : List (Text × Value)}
      (noted : terms.SameEntries bond attributes attributes') : terms.Twin bond terms.SameIncident
        (pure ⟨kind, arguments, attributes, none, [], none⟩) (pure ⟨kind, arguments', attributes', none, [], none⟩) :=
    twin_incident ⟨rfl, each, noted, rfl, rfl, rfl⟩
  unfold newIncident
  dsimp only
  split
  · exact twin_incident (systemIncident_same kind each)
  · split
    · exact twin_malformedIncident calls kind each
    · split
      · exact twin_unicodeIncident _ each
      · exact twin_unicodeIncident _ each
      · exact twin_unicodeIncident _ each
      · exact twin_groupIncident _ each
      · exact twin_groupIncident _ each
      · exact saying _ (notes_same _ (sames_take each 1))
      · refine saying _ ?_
        rw [each.length_eq]
        split
        · exact notes_same _ each
        · exact .nil
      · refine saying _ ?_
        rw [each.length_eq]
        split
        · exact notes_same _ each
        · exact .nil
      · refine saying _ ?_
        have whole := notes_same ["code"] (.cons (.tuples bond.shared each) .nil)
        cases each with
        | nil => exact .nil
        | cons same each =>
            cases each with
            | nil => exact notes_same _ (.cons same .nil)
            | cons => exact whole
      · exact saying _ .nil

theorem twin_newError (calls : terms.TwinCalls bond call call') (kind : ErrorKind) {arguments arguments' : List Value}
    (each : terms.Sames bond arguments arguments') :
    terms.Twin bond Bond.objects (newError call kind arguments) (newError call' kind arguments') :=
  (twin_newIncident calls kind each).bind fun _ _ _ _ same => twin_allocate (.error same)

/-! ## The text of errors -/

theorem twin_plainText (calls : terms.TwinCalls bond call call') (same : terms.Same bond value value') :
    terms.Twin bond Equal (plainText call value) (plainText call' value') :=
  twin_textIn calls same

theorem twin_systemText (calls : terms.TwinCalls bond call call') {number number' text text' : Value}
    (same : terms.Same bond number number') (same' : terms.Same bond text text') {files files' : List Value}
    (each : terms.Sames bond files files') :
    terms.Twin bond Equal (systemText call number text files) (systemText call' number' text' files') := by
  refine (twin_plainText calls same).bind fun later grown _ _ equal => ?_
  subst equal
  refine (twin_plainText (calls.mono grown) (same'.mono grown)).bind fun later' more _ _ equal => ?_
  subst equal
  have grown := grown.trans more
  cases each with
  | nil => exact twin_equal _
  | cons file each =>
      cases each with
      | nil =>
          refine (twin_shown (file.mono grown)).bind fun _ _ _ _ equal => ?_
          subst equal
          exact twin_equal _
      | cons other each =>
          refine (twin_shown (file.mono grown)).bind fun _ last _ _ equal => ?_
          subst equal
          refine (twin_shown (other.mono (grown.trans last))).bind fun _ _ _ _ equal => ?_
          subst equal
          exact twin_equal _

theorem twin_malformedText (calls : terms.TwinCalls bond call call') {message message' : Value}
    (same : terms.Same bond message message') {file file' line line' : Option Value}
    (ofFile : terms.SameIfAny bond file file') (ofLine : terms.SameIfAny bond line line') :
    terms.Twin bond Equal (malformedText call message file line) (malformedText call' message' file' line') := by
  refine (twin_plainText calls same).bind fun later grown said _ equal => ?_
  subst equal
  cases ofFile with
  | none =>
      cases ofLine with
      | none => exact twin_equal _
      | some same => cases same <;> exact twin_equal _
  | some same =>
      cases ofLine with
      | none => cases same <;> exact twin_equal _
      | some same' => cases same <;> cases same' <;> exact twin_equal _

theorem twin_argumentsText (calls : terms.TwinCalls bond call call') {incident incident' : Incident}
    (same : terms.SameIncident bond incident incident') :
    terms.Twin bond Equal (argumentsText call incident) (argumentsText call' incident') := by
  obtain ⟨kind, arguments, attributes, report, trace, cause⟩ := incident
  obtain ⟨kind', arguments', attributes', report', trace', cause'⟩ := incident'
  obtain ⟨kinds, each, -⟩ := same
  dsimp only at kinds each
  subst kinds
  delta argumentsText
  dsimp only
  cases each with
  | nil => cases kind' <;> exact twin_equal _
  | cons same each =>
      have whole := twin_shown (.tuples bond.shared (.cons same each))
      cases each with
      | nil => cases kind' <;> first | exact twin_plainText calls same | exact twin_equal _ | exact twin_shown same
      | cons => cases kind' <;> first | exact whole | exact twin_equal _

theorem valueOr_same {found found' : Option Value} (alike : terms.SameIfAny bond found found') :
    terms.Same bond (found.getD .none) (found'.getD .none) := by
  cases alike with
  | none => exact .none
  | some same => exact same

theorem toList_same {found found' : Option Value} (alike : terms.SameIfAny bond found found') :
    terms.Sames bond found.toList found'.toList := by
  cases alike with
  | none => exact .nil
  | some same => exact .cons same .nil

theorem number_same {found found' : Option Value} (alike : terms.SameIfAny bond found found') :
    (found'.bind Value.toInt?).getD 0 = (found.bind Value.toInt?).getD 0 := by
  cases alike with
  | none => rfl
  | some same => exact congrArg (Option.getD · 0) (toInt?_same same)

theorem content_same {found found' : Option Value} (alike : terms.SameIfAny bond found found') :
    found'.map contentOf = found.map contentOf := by
  cases alike with
  | none => rfl
  | some same => exact congrArg some (contentOf_same same)

theorem twin_incidentText (calls : terms.TwinCalls bond call call') {incident incident' : Incident}
    (same : terms.SameIncident bond incident incident') :
    terms.Twin bond Equal (incidentText call incident) (incidentText call' incident') := by
  have field (name : String) := same.attributes.lookup name.toList
  have otherwise := twin_argumentsText calls same
  unfold incidentText
  dsimp only
  rw [same.kind]
  split
  · have number := field "errno"
    have text := field "strerror"
    have files := List.rel_append (toList_same (field "filename")) (toList_same (field "filename2"))
    revert number text
    generalize incident.attributes.lookup "errno".toList = a, incident'.attributes.lookup "errno".toList = a',
      incident.attributes.lookup "strerror".toList = b, incident'.attributes.lookup "strerror".toList = b'
    intro number text
    cases number with
    | none => exact otherwise
    | some number =>
        cases text with
        | none => exact otherwise
        | some text => exact twin_systemText calls number text files
  · split
    · exact twin_malformedText calls (valueOr_same (field "msg")) (field "filename") (field "lineno")
    · have message := field "message"
      have gathered := field "exceptions"
      have subject := field "object"
      have first := number_same (field "start")
      have last := number_same (field "end")
      have encoding := content_same (field "encoding")
      have reason := content_same (field "reason")
      rw [first, last, encoding, reason]
      revert message gathered subject
      generalize incident.attributes.lookup "message".toList = a, incident'.attributes.lookup "message".toList = a',
        incident.attributes.lookup "exceptions".toList = b, incident'.attributes.lookup "exceptions".toList = b',
        incident.attributes.lookup "object".toList = c, incident'.attributes.lookup "object".toList = c'
      intro message gathered subject
      generalize incident.kind = kind
      cases kind with
      | baseGroup | group =>
          cases message with
          | none => exact otherwise
          | some message =>
              cases gathered with
              | none => exact otherwise
              | some errors =>
                  cases errors with
                  | tuple _ each =>
                      refine (twin_plainText calls message).bind fun _ _ _ _ equal => ?_
                      subst equal
                      rw [(allSame_iff.mp each).length_eq]
                      exact twin_equal _
                  | _ => exact otherwise
      | encoding | translating =>
          cases subject with
          | none => exact otherwise
          | some subject =>
              dsimp only
              rw [contentOf_same subject]
              exact twin_equal _
      | _ => exact otherwise

/-! ## Converting values to text -/

theorem twin_requireText (same : terms.Same bond value value') :
    terms.Twin bond terms.Same (requireText value) (requireText value') := by
  cases same with
  | text kept trusted content => exact twin_value (.text kept trusted content)
  | _ => exact twin_raiseAbout (by constructor <;> assumption) _ _

theorem twin_textOfIncident (calls : terms.TwinCalls bond call call') {incident incident' : Incident}
    (same : terms.SameIncident bond incident incident') :
    terms.Twin bond terms.Same (textOfIncident call incident) (textOfIncident call' incident') := by
  have said : terms.Twin bond terms.Same (incidentText call incident >>= newText) (incidentText call' incident' >>= newText) := by
    refine (twin_incidentText calls same).bind fun _ _ _ _ equal => ?_
    subst equal
    exact twin_newText _
  obtain ⟨kind, arguments, attributes, report, trace, cause⟩ := incident
  obtain ⟨kind', arguments', attributes', report', trace', cause'⟩ := incident'
  obtain ⟨kinds, each, noted, reports, -⟩ := same
  dsimp only at kinds each noted reports
  subst kinds reports
  delta textOfIncident
  dsimp only
  cases report' with
  | some report =>
      refine twin_read fun later grown world world' matched => ?_
      rw [matched.colours]
      exact twin_newText _
  | none =>
      have empty : attributes'.isEmpty = attributes.isEmpty := by cases noted <;> rfl
      cases each with
      | nil => cases kind' <;> exact said
      | @cons argument argument' _ _ same each =>
          cases each with
          | cons => cases kind' <;> exact said
          | nil =>
              have alone {other other' : Effect Value} (said : terms.Twin bond terms.Same other other') :
                  terms.Twin bond terms.Same (if attributes.isEmpty then call (.builtin .text) [argument] else other)
                    (if attributes'.isEmpty then call' (.builtin .text) [argument'] else other') := by
                rw [empty]
                split
                · exact calls _ le_rfl (.builtin .text) (.cons same .nil)
                · exact said
              cases kind' <;> first | exact said | exact alone said

theorem twin_textOf (calls : terms.TwinCalls bond call call') (same : terms.Same bond value value') :
    terms.Twin bond terms.Same (textOf call value) (textOf call' value') := by
  have displayed : terms.Twin bond terms.Same (do newText (← shown value)) (do newText (← shown value')) := by
    refine (twin_shown same).bind fun _ _ _ _ equal => ?_
    subst equal
    exact twin_newText _
  have required {action action' : Effect Value} {later : Bond} (twin : terms.Twin later terms.Same action action') :
      terms.Twin later terms.Same (action >>= requireText) (action' >>= requireText) :=
    twin.bind fun _ _ _ _ same => twin_requireText same
  refine twin_read fun later grown world world' matched => ?_
  have calls := calls.mono grown
  have displayed := displayed.mono grown
  cases same with
  | text kept trusted content => exact twin_untrusted (.text (grown.identities kept) trusted content)
  | object pair =>
      have pair := grown.objects pair
      obtain ⟨object, object', there, there', alike⟩ := matched.objects pair
      dsimp only
      rw [there, there']
      cases alike with
      | error same => exact twin_textOfIncident calls same
      | guest _ text => exact required (twin_readSlot text)
      | member owner =>
          have shared := attributeOfClass?_same matched terms.str_read owner
          dsimp only
          generalize world.attributeOfClass? owner "__str__" = found, world'.attributeOfClass? owner "__str__" = found'
            at shared ⊢
          cases shared with
          | none => exact displayed
          | some shared =>
              cases shared with
              | hook => exact required (calls _ le_rfl (.method later.shared (.object pair) terms.str_read) .nil)
              | value convert =>
                  cases convert <;> exact required (calls _ le_rfl (by constructor <;> assumption) .nil)
      | _ =>
          dsimp only
          exact displayed
  | _ =>
      dsimp only
      exact displayed

theorem twin_markupOf (calls : terms.TwinCalls bond call call') (same : terms.Same bond value value') :
    terms.Twin bond terms.Same (markupOf call value) (markupOf call' value') := by
  refine (twin_attributeIfAny same terms.html_read).bind fun later grown found found' own => ?_
  have calls := calls.mono grown
  have escaped : terms.Twin later terms.Same (do newText (Html.escape (contentOf (← call (.builtin .text) [value]))))
      (do newText (Html.escape (contentOf (← call' (.builtin .text) [value'])))) := by
    refine (calls _ le_rfl (.builtin .text) (.cons (same.mono grown) .nil)).bind fun _ _ _ _ same => ?_
    rw [contentOf_same same]
    exact twin_newText _
  cases own with
  | none => exact escaped
  | some convert =>
      cases convert with
      | none => exact escaped
      | _ => exact calls _ le_rfl (by constructor <;> assumption) .nil

/-! ## Raising and handling errors -/

theorem Ends.located {world world' : World} {here here' : Activation} (file : here'.file = here.file) (line : Nat)
    {action action' : Effect α}
    (ends : terms.Ends bond good world world' (action world) (action' world')) :
    terms.Ends bond good world world' (Effect.located here line action world) (Effect.located here' line action' world') := by
  refine ends.recover fun later _ between between' matched error error' pair => ?_
  refine ((twin_changeIncident pair fun later' more incident incident' same => ?_).bind fun _ more _ _ _ =>
    twin_failWith (more.objects pair)) later le_rfl between between' matched
  exact { same with trace := by rw [same.trace, file] }

theorem twin_located {here here' : Activation} (file : here'.file = here.file) (line : Nat) {action action' : Effect α}
    (twin : terms.Twin bond good action action') :
    terms.Twin bond good (located here line action) (located here' line action') :=
  fun later grown world world' matched => (twin later grown world world' matched).located file line

/-- Whether two actions ended in the same way. -/
inductive SameEnding (bond : Bond) (good : Bond → α → α → Prop) : Except Nat α → Except Nat α → Prop where
  | ok {value value' : α} (fine : good bond value value') : SameEnding bond good (.ok value) (.ok value')
  | error {error error' : Nat} (pair : bond.objects error error') : SameEnding bond good (.error error) (.error error')

theorem twin_attempted (kept : ∀ later later' value value', later ≤ later' → good later value value' → good later' value value')
    {action action' : Effect α} (twin : terms.Twin bond good action action') :
    terms.Twin bond (fun later => SameEnding later good) (attempted action) (attempted action') :=
  (twin.bind fun _ _ _ _ fine => twin_pure fun _ more => SameEnding.ok (kept _ _ _ _ more fine)).recover
    fun _ _ _ _ pair => twin_pure fun _ more => SameEnding.error (more.objects pair)

theorem SameEnding.mono (kept : ∀ later later' value value', later ≤ later' → good later value value' → good later' value value')
    {bond' : Bond} (grown : bond ≤ bond') {ending ending' : Except Nat α} (same : SameEnding bond good ending ending') :
    SameEnding bond' good ending ending' := by
  cases same with
  | ok fine => exact .ok (kept _ _ _ _ grown fine)
  | error pair => exact .error (grown.objects pair)

theorem twin_resume (kept : ∀ later later' value value', later ≤ later' → good later value value' → good later' value value')
    {ending ending' : Except Nat α} (same : SameEnding bond good ending ending') :
    terms.Twin bond good (resume ending) (resume ending') := by
  cases same with
  | ok fine => exact twin_pure fun _ grown => kept _ _ _ _ grown fine
  | error pair => exact twin_failWith pair

theorem twin_handling (kept : ∀ later later' value value', later ≤ later' → good later value value' → good later' value value')
    {error error' : Nat} (pair : bond.objects error error') {action action' : Effect α}
    (twin : terms.Twin bond good action action') :
    terms.Twin bond good (handling error action) (handling error' action') := by
  refine twin_read fun later grown world world' matched => ?_
  refine (twin_handle fun _ more _ _ each => .cons (more.objects (grown.objects pair)) each).bind fun later' more _ _ _ => ?_
  refine (twin_attempted kept (twin.mono (grown.trans more))).bind fun later'' further ending ending' same => ?_
  refine (@twin_handle terms later'' (fun _ => world.handled) (fun _ => world'.handled) fun _ last _ _ _ => ?_).bind
    fun _ last _ _ _ => twin_resume kept (same.mono kept last)
  exact matched.handled.imp fun _ _ => ((more.trans further).trans last).objects

/-- How two lists of statements end alike. -/
inductive SameFlow (terms : Terms) (bond : Bond) : Flow → Flow → Prop where
  | proceed : SameFlow terms bond .proceed .proceed
  | leave : SameFlow terms bond .leave .leave
  | again : SameFlow terms bond .again .again
  | finish {value value' : Value} (same : terms.Same bond value value') : SameFlow terms bond (.finish value) (.finish value')

theorem SameFlow.mono (later later' : Bond) (flow flow' : Flow) (grown : later ≤ later')
    (same : terms.SameFlow later flow flow') : terms.SameFlow later' flow flow' := by
  cases same with
  | proceed => exact .proceed
  | leave => exact .leave
  | again => exact .again
  | finish same => exact .finish (same.mono grown)

theorem twin_flow {flow flow' : Flow} (same : terms.SameFlow bond flow flow') :
    terms.Twin bond terms.SameFlow (pure flow) (pure flow') :=
  twin_pure fun _ grown => same.mono _ _ _ _ grown

/-- What is gone on with after a cleanup. -/
theorem twin_afterCleanup {ending ending' : Except Nat Flow} (same : SameEnding bond terms.SameFlow ending ending')
    {flow flow' : Flow} : terms.SameFlow bond flow flow' →
    terms.Twin bond terms.SameFlow (match flow with | .proceed => resume ending | flow => pure flow)
      (match flow' with | .proceed => resume ending' | flow => pure flow) := by
  intro fits
  cases fits with
  | proceed => exact twin_resume SameFlow.mono same
  | leave => exact twin_flow .leave
  | again => exact twin_flow .again
  | finish same => exact twin_flow (.finish same)

theorem twin_cleaned {cleanup cleanup' action action' : Effect Flow} (first : terms.Twin bond terms.SameFlow cleanup cleanup')
    (second : terms.Twin bond terms.SameFlow action action') :
    terms.Twin bond terms.SameFlow (cleaned cleanup action) (cleaned cleanup' action') := by
  refine (twin_attempted SameFlow.mono second).bind fun later grown ending ending' same => ?_
  cases same with
  | ok same =>
      exact (first.mono grown).bind fun _ more _ _ fits =>
        twin_afterCleanup ((SameEnding.ok same).mono SameFlow.mono more) fits
  | error pair =>
      exact (twin_handling SameFlow.mono pair (first.mono grown)).bind fun _ more _ _ fits =>
        twin_afterCleanup ((SameEnding.error pair).mono SameFlow.mono more) fits

theorem twin_raiseAgain : terms.Twin bond good raiseAgain raiseAgain := by
  refine twin_read fun later grown world world' matched => ?_
  have handled := matched.handled
  generalize world.handled = errors, world'.handled = errors' at handled ⊢
  cases handled with
  | nil => exact twin_raiseText _ _
  | cons pair => exact twin_failWith pair

theorem twin_rounds {test test' : Effect Bool} {body body' otherwise otherwise' : Effect Flow}
    (first : terms.Twin bond Equal test test') (second : terms.Twin bond terms.SameFlow body body')
    (third : terms.Twin bond terms.SameFlow otherwise otherwise') (steps : Nat) :
    terms.Twin bond terms.SameFlow (rounds test body otherwise steps) (rounds test' body' otherwise' steps) := by
  induction steps generalizing bond with
  | zero => exact twin_exhausted
  | succ steps ih =>
      refine first.bind fun later grown goesOn _ equal => ?_
      subst equal
      cases goesOn with
      | false => exact third.mono grown
      | true =>
          refine (second.mono grown).bind fun later' more flow flow' fits => ?_
          have further := grown.trans more
          have next := ih (first.mono further) (second.mono further) (third.mono further)
          cases fits with
          | leave => exact twin_flow .proceed
          | finish same => exact twin_flow (.finish same)
          | proceed => exact next
          | again => exact next

theorem twin_raiseValue (calls : terms.TwinCalls bond call call') (same : terms.Same bond value value') :
    terms.Twin bond good (raiseValue call value) (raiseValue call' value') := by
  refine twin_read fun later grown world world' matched => ?_
  have refused : terms.Twin later good (raiseText .typing "exceptions must derive from BaseException")
      (raiseText .typing "exceptions must derive from BaseException") :=
    twin_raiseText _ _
  cases same with
  | kind kind => exact (twin_newError (calls.mono grown) kind .nil).bind fun _ _ _ _ pair => twin_failWith pair
  | object pair =>
      have pair := grown.objects pair
      have error := isSome_same (incident?_same matched pair)
      dsimp only
      rw [error]
      split
      · exact twin_failWith pair
      · exact refused
  | _ => exact refused

/-- The kinds among values. -/
def kindsOf (values : List Value) : List ErrorKind :=
  values.filterMap fun
    | .kind wanted => some wanted
    | _ => none

theorem kindsOf_same {values values' : List Value} (each : terms.Sames bond values values') :
    kindsOf values' = kindsOf values := by
  induction each with
  | nil => rfl
  | cons same _ ih =>
      unfold kindsOf at ih ⊢
      cases same <;> simp only [List.filterMap_cons, ih]

theorem twin_isOfKind {error error' : Nat} (pair : bond.objects error error') (same : terms.Same bond value value') :
    terms.Twin bond Equal (isOfKind error value) (isOfKind error' value') := by
  refine twin_read fun later grown world world' matched => ?_
  have kind := errorKind_same matched (grown.objects pair)
  have refused : terms.Twin later Equal
      (raiseText .typing "catching classes that do not inherit from BaseException is not allowed" : Effect Bool)
      (raiseText .typing "catching classes that do not inherit from BaseException is not allowed") :=
    twin_raiseText _ _
  dsimp only
  rw [kind]
  cases same with
  | kind => exact twin_equal _
  | tuple _ each =>
      have list := allSame_iff.mp each
      have size := list.length_eq
      have kinds := kindsOf_same list
      change terms.Twin later Equal
        (if (kindsOf _).length < _ then _ else pure ((kindsOf _).any fun wanted => (world.errorKind error).isA wanted))
        (if (kindsOf _).length < _ then _ else pure ((kindsOf _).any fun wanted => (world.errorKind error).isA wanted))
      rw [kinds, size]
      split
      · exact refused
      · exact twin_equal _
  | _ => exact refused

end Terms
end Stencil
