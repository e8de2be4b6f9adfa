import LeaseRoster.Document.Value
import LeaseRoster.Proofs.TokenFaults

/-!
# The faults of documents

The reading of a document fails only with eight kinds of faults.  One of them says that a
text is no document; the others come from spellings without a value, from directives and
escapes with numbers out of range, from tags on content that they were not made for, and
from collections that are nested too deep.
-/

namespace LeaseRoster

namespace Document

/-! ## Nodes -/

namespace Graph

theorem yields_refuse {α : Type} {tokens : List Token} (sound : Sound tokens)
    (answer : α → Prop) : Yields isReadingFault answer (refuse tokens) := by
  unfold refuse
  split
  next fault rest => exact ((sound_cons _ _).mp sound).1
  next => exact isReadingFault_document _

/-- A part of the reading fails only as the reading of a document may, and leaves no token to
come that stands for another fault. -/
abbrev Parses {α : Type} (outcome : Except Fault (α × Reading)) : Prop :=
  Yields isReadingFault (fun found => Sound found.2.tokens) outcome

namespace Reading

section Tokens

variable (reading : Reading)

@[simp] theorem tokens_before (tokens : List Token) : (reading.before tokens).tokens = tokens :=
  rfl

@[simp] theorem tokens_add (anchor : Option String) (node : Node) :
    (reading.add anchor node).2.tokens = reading.tokens := by
  cases anchor <;> rfl

end Tokens

theorem parses_enter (reading : Reading) (sound : Sound reading.tokens)
    (anchor : Option String) (tag : Tag) : Parses (reading.enter anchor tag) := by
  unfold enter
  split
  · exact rfl
  · change Sound (reading.add anchor ⟨tag, .list []⟩).2.tokens
    rwa [tokens_add]

end Reading

theorem reads_fullName (handles : Index String String) (handle : Option String)
    (suffix : String) : Reads (fullName handles handle suffix) := by
  unfold fullName
  split
  · simp
  · split <;> simp

theorem yields_properties (handles : Index String String) {tokens : List Token}
    (sound : Sound tokens) :
    Yields isReadingFault (fun found => Sound found.2) (properties handles tokens) := by
  unfold properties
  split
  · have rest := sound.rest.rest
    simpa using (reads_fullName _ _ _).of_any fun _ => rest
  · have rest := sound.rest.rest
    simpa using (reads_fullName _ _ _).of_any fun _ => rest
  · have rest := sound.rest
    simpa using (reads_fullName _ _ _).of_any fun _ => rest
  · exact sound.rest
  · exact sound

theorem reads_check (properties : Properties) (anchors : Index String Nat) :
    Reads (properties.check anchors) := by
  unfold Properties.check
  split
  · split <;> simp
  · simp

theorem yields_behindComma (isFirst : Bool) {tokens : List Token} (sound : Sound tokens) :
    Yields isReadingFault Sound (behindComma isFirst tokens) := by
  unfold behindComma
  split
  · split
    · exact sound
    · exact sound.rest
  · split
    · exact sound
    · exact yields_refuse sound _

/-- A collection is read as what is inside it. -/
theorem parses_collection {α : Type} (reading : Reading) (sound : Sound reading.tokens)
    (anchor : Option String) (tag : Tag) (content : α → Content)
    {inner : Reading → Except Fault (α × Reading)}
    (parses : ∀ inside : Reading, Sound inside.tokens → Parses (inner inside)) :
    Parses (do
      let (number, inside) ← reading.enter anchor tag
      let (found, last) ← inner inside
      return last.leave number (content found)) := by
  rw [Parses, yields_bind]
  refine (reading.parses_enter sound anchor tag).mono fun (number, inside) soundInside => ?_
  dsimp only
  rw [yields_bind]
  exact parses inside soundInside

mutual

/-- A node, and with it every part of one: each of them uses up fuel before it goes on to
another, and hands on the tokens that are left to it. -/
theorem parses_node (handles : Index String String) (inBlock listAllowed : Bool) :
    ∀ (fuel : Nat) (reading : Reading), Sound reading.tokens →
      Parses (node handles inBlock listAllowed fuel reading)
  | 0, reading, sound => yields_refuse sound _
  | fuel + 1, reading, sound => by
    rw [node]
    split
    next name rest known =>
      rw [known, sound_cons] at sound
      split
      · exact sound.2
      · exact isReadingFault_document _
    next tokens _ =>
      rw [Parses, yields_bind]
      refine (yields_properties handles sound).mono fun (found, rest) soundRest => ?_
      dsimp only at soundRest ⊢
      rw [yields_bind]
      refine (reads_check found reading.anchors).of_any fun _ => ?_
      have lone : Parses (if found.isPresent then
            .ok ((reading.before rest).add found.anchor ⟨found.scalarTag [] true, .scalar []⟩)
          else refuse rest) := by
        split
        · simpa using soundRest
        · exact yields_refuse soundRest _
      split
      next text isPlain behind =>
        simpa using soundRest.rest
      next behind =>
        exact parses_collection (reading.before behind)
          soundRest.rest _ _ .list
          fun inside => parses_flowItems handles true fuel inside
      next behind =>
        exact parses_collection (reading.before behind)
          soundRest.rest _ _ .mapping
          fun inside => parses_flowEntries handles true fuel inside
      next =>
        split
        · exact parses_collection (reading.before _) soundRest _ _ .list
            fun inside => parses_openItems handles fuel inside
        · exact lone
      next behind =>
        split
        · exact parses_collection (reading.before behind)
            soundRest.rest _ _ .list
            fun inside => parses_blockItems handles fuel inside
        · exact lone
      next behind =>
        split
        · exact parses_collection (reading.before behind)
            soundRest.rest _ _ .mapping
            fun inside => parses_blockEntries handles fuel inside
        · exact lone
      next => exact lone

theorem parses_blockItems (handles : Index String String) :
    ∀ (fuel : Nat) (reading : Reading), Sound reading.tokens →
      Parses (blockItems handles fuel reading)
  | 0, reading, sound => yields_refuse sound _
  | fuel + 1, reading, sound => by
    rw [blockItems]
    split
    next rest known =>
      rw [known] at sound
      exact sound.rest
    next rest known =>
      rw [known, sound_cons] at sound
      have others (item : Nat) (next : Reading) (soundNext : Sound next.tokens) :
          Parses (do
            let (items, last) ← blockItems handles fuel next
            return (item :: items, last)) := by
        rw [Parses, yields_bind]
        exact parses_blockItems handles fuel next soundNext
      dsimp only
      split
      · exact others _ _ sound.2
      · rw [Parses, yields_bind]
        exact (parses_node handles true false fuel (reading.before rest)
          sound.2).mono fun (item, next) soundNext => others item next soundNext
    next => exact yields_refuse sound _

theorem parses_openItems (handles : Index String String) :
    ∀ (fuel : Nat) (reading : Reading), Sound reading.tokens →
      Parses (openItems handles fuel reading)
  | 0, reading, sound => yields_refuse sound _
  | fuel + 1, reading, sound => by
    rw [openItems]
    split
    next rest known =>
      rw [known, sound_cons] at sound
      have others (item : Nat) (next : Reading) (soundNext : Sound next.tokens) :
          Parses (do
            let (items, last) ← openItems handles fuel next
            return (item :: items, last)) := by
        rw [Parses, yields_bind]
        exact parses_openItems handles fuel next soundNext
      dsimp only
      split
      · exact others _ _ sound.2
      · rw [Parses, yields_bind]
        exact (parses_node handles true false fuel (reading.before rest)
          sound.2).mono fun (item, next) soundNext => others item next soundNext
    next => exact sound

theorem parses_blockPart (handles : Index String String) :
    ∀ (fuel : Nat) (reading : Reading), Sound reading.tokens →
      Parses (blockPart handles fuel reading)
  | 0, reading, sound => yields_refuse sound _
  | fuel + 1, reading, sound => by
    rw [blockPart]
    exact Yields.ite sound (parses_node handles true true fuel reading sound)

theorem parses_blockEntries (handles : Index String String) :
    ∀ (fuel : Nat) (reading : Reading), Sound reading.tokens →
      Parses (blockEntries handles fuel reading)
  | 0, reading, sound => yields_refuse sound _
  | fuel + 1, reading, sound => by
    rw [blockEntries]
    split
    next rest known =>
      rw [known] at sound
      exact sound.rest
    next rest known =>
      rw [known, sound_cons] at sound
      have others (key value : Nat) (behind : Reading) (soundBehind : Sound behind.tokens) :
          Parses (do
            let (entries, last) ← blockEntries handles fuel behind
            return ((key, value) :: entries, last)) := by
        rw [Parses, yields_bind]
        exact parses_blockEntries handles fuel behind soundBehind
      rw [Parses, yields_bind]
      refine (parses_blockPart handles fuel (reading.before rest) sound.2).mono
        fun (key, next) soundNext => ?_
      dsimp only at soundNext ⊢
      split
      next more marked =>
        rw [marked, sound_cons] at soundNext
        rw [yields_bind]
        exact (parses_blockPart handles fuel (next.before more) soundNext.2).mono
          fun (value, behind) soundBehind => others key value behind soundBehind
      next => exact others key _ _ soundNext
    next => exact yields_refuse sound _

theorem parses_flowPart (handles : Index String String) (closing : Token) :
    ∀ (fuel : Nat) (reading : Reading), Sound reading.tokens →
      Parses (flowPart handles closing fuel reading)
  | 0, reading, sound => yields_refuse sound _
  | fuel + 1, reading, sound => by
    rw [flowPart]
    exact Yields.ite sound (parses_node handles false false fuel reading sound)

theorem parses_flowValue (handles : Index String String) (closing : Token) :
    ∀ (fuel : Nat) (reading : Reading), Sound reading.tokens →
      Parses (flowValue handles closing fuel reading)
  | 0, reading, sound => yields_refuse sound _
  | fuel + 1, reading, sound => by
    rw [flowValue]
    split
    next rest known =>
      rw [known, sound_cons] at sound
      exact yields_refuse sound.2 _
    next rest _ known =>
      rw [known, sound_cons] at sound
      exact parses_flowPart handles closing fuel _ sound.2
    next => exact sound

theorem parses_flowItems (handles : Index String String) (isFirst : Bool) :
    ∀ (fuel : Nat) (reading : Reading), Sound reading.tokens →
      Parses (flowItems handles isFirst fuel reading)
  | 0, reading, sound => yields_refuse sound _
  | fuel + 1, reading, sound => by
    rw [flowItems]
    split
    next rest known =>
      rw [known] at sound
      exact sound.rest
    next =>
      rw [Parses, yields_bind]
      refine (yields_behindComma isFirst sound).mono fun rest soundRest => ?_
      split
      next rest =>
        exact soundRest.rest
      next rest =>
        rw [sound_cons] at soundRest
        rw [yields_bind]
        refine ((reading.before rest).parses_enter soundRest.2 _ _).mono
          fun (number, inside) soundInside => ?_
        dsimp only
        rw [yields_bind]
        refine (parses_flowPart handles .flowListEnd fuel inside soundInside).mono
          fun (key, next) soundNext => ?_
        dsimp only
        rw [yields_bind]
        refine (parses_flowValue handles .flowListEnd fuel next soundNext).mono
          fun (value, behind) soundBehind => ?_
        dsimp only
        rw [yields_bind]
        exact parses_flowItems handles false fuel
          (behind.leave number (.mapping [(key, value)])).2 soundBehind
      next =>
        rw [yields_bind]
        refine (parses_node handles false false fuel (reading.before rest)
          soundRest).mono fun (item, next) soundNext => ?_
        dsimp only
        rw [yields_bind]
        exact parses_flowItems handles false fuel next soundNext

theorem parses_flowEntries (handles : Index String String) (isFirst : Bool) :
    ∀ (fuel : Nat) (reading : Reading), Sound reading.tokens →
      Parses (flowEntries handles isFirst fuel reading)
  | 0, reading, sound => yields_refuse sound _
  | fuel + 1, reading, sound => by
    rw [flowEntries]
    split
    next rest known =>
      rw [known] at sound
      exact sound.rest
    next =>
      rw [Parses, yields_bind]
      refine (yields_behindComma isFirst sound).mono fun rest soundRest => ?_
      split
      next rest =>
        exact soundRest.rest
      next rest =>
        rw [sound_cons] at soundRest
        rw [yields_bind]
        refine (parses_flowPart handles .flowMappingEnd fuel (reading.before rest)
          soundRest.2).mono fun (key, next) soundNext => ?_
        dsimp only
        rw [yields_bind]
        refine (parses_flowValue handles .flowMappingEnd fuel next soundNext).mono
          fun (value, behind) soundBehind => ?_
        dsimp only
        rw [yields_bind]
        exact parses_flowEntries handles false fuel behind soundBehind
      next =>
        rw [yields_bind]
        refine (parses_node handles false false fuel (reading.before rest)
          soundRest).mono fun (key, next) soundNext => ?_
        dsimp only
        rw [yields_bind]
        exact parses_flowEntries handles false fuel next.blank.2 soundNext

end

theorem yields_documentHead (hasVersion : Bool) (declared : Index String String)
    {tokens : List Token} (sound : Sound tokens) :
    Yields isReadingFault (fun found => Sound found.2)
      (documentHead hasVersion declared tokens) := by
  fun_induction documentHead hasVersion declared tokens with
  | case1 => simp
  | case2 => simp
  | case3 hasVersion declared major rest _ _ ih => exact ih sound.rest
  | case4 => simp
  | case5 hasVersion declared handle meaning rest _ ih => exact ih sound.rest
  | case6 hasVersion declared rest ih => exact ih sound.rest
  | case7 hasVersion declared rest => exact sound.rest
  | case8 => exact yields_refuse sound _

theorem reads_checkEnd {tokens : List Token} (sound : Sound tokens) : Reads (checkEnd tokens) := by
  fun_induction checkEnd tokens with
  | case1 => simp
  | case2 rest ih => exact ih sound.rest
  | case3 => simp
  | case4 => exact yields_refuse sound _

theorem reads_root (handles : Index String String) {tokens : List Token} (sound : Sound tokens) :
    Reads (root handles tokens) := by
  unfold root
  rw [Reads, yields_bind]
  refine (parses_node handles true false _ ⟨tokens, Index.empty, empty, 0⟩ sound).mono
    fun (number, last) soundLast => ?_
  simpa using reads_checkEnd soundLast

theorem reads_ofTokens {tokens : List Token} (sound : Sound tokens) :
    Reads (ofTokens tokens) := by
  unfold ofTokens
  split
  · simpa using reads_root _ sound
  · split
    · simp
    · rw [Reads, yields_bind]
      refine (yields_documentHead _ _ sound).mono fun found soundRest => ?_
      obtain ⟨handles, rest⟩ := found
      dsimp only
      split
      · simpa using reads_checkEnd soundRest
      · simpa using reads_root _ soundRest

/-! ## Merge marks -/

theorem reads_mergeSources (graph : Graph) (number : Nat) : Reads (graph.mergeSources number) := by
  unfold mergeSources
  split
  · simp
  · split <;> simp
  · simp

theorem reads_flatten (bound : Nat) (graph : Graph) (number : Nat) :
    Reads (flatten bound graph number) := by
  induction bound generalizing graph number with
  | zero => simp [flatten]
  | succ bound ih =>
    rw [flatten]
    split
    · simp
    next value others _ =>
      rw [Reads, yields_bind]
      refine (reads_mergeSources graph value).of_any fun sources => ?_
      rw [yields_bind]
      refine (yields_foldlM (fun merged source _ => ih merged source) sources trivial).of_any
        fun merged => ?_
      simpa using ih merged number

end Graph

/-! ## Scalars -/

theorem reads_readInBase (base : Nat) (marks text : List Char) :
    Reads (readInBase base marks text) := by
  unfold readInBase
  dsimp only
  split <;> simp [unreadable]

theorem reads_readDecimal (text : List Char) : Reads (readDecimal text) := by
  unfold readDecimal
  split <;> simp

theorem reads_readUnsigned (text : List Char) : Reads (readUnsigned text) := by
  unfold readUnsigned
  split
  · simp
  · simp
  · exact reads_readInBase _ _ _
  · exact reads_readInBase _ _ _
  · exact reads_readInBase _ _ _
  · split
    · simpa using yields_mapM reads_readDecimal _
    · exact reads_readDecimal _

theorem reads_readInteger (text : List Char) : Reads (readInteger text) := by
  unfold readInteger
  dsimp only
  split
  · simp
  · simpa using reads_readUnsigned _

theorem reads_readPlainNumber (text : List Char) : Reads (readPlainNumber text) := by
  unfold readPlainNumber
  split <;> simp [unreadable]

theorem reads_scaledBy (number factor : Binary64) : Reads (scaledBy number factor) := by
  cases factor <;> simp [scaledBy]

theorem reads_sumFrom (total : Binary64) (base : Nat) (numbers : List Binary64) :
    Reads (sumFrom total base numbers) := by
  induction numbers generalizing total base with
  | nil => simp [sumFrom]
  | cons number rest ih =>
    rw [sumFrom, Reads, yields_bind]
    unfold scaled
    -- The factor is kept closed: there is no need to compute a number near it.
    generalize Binary64.ofInt base = factor
    exact (reads_scaledBy number factor).of_any fun share => ih _ _

theorem reads_readUnsignedNumber (text : List Char) : Reads (readUnsignedNumber text) := by
  unfold readUnsignedNumber
  refine Yields.ite ?_ (Yields.ite ?_ (Yields.ite ?_ (reads_readPlainNumber text)))
  · exact trivial
  · exact trivial
  rw [yields_bind]
  exact (yields_mapM reads_readPlainNumber _).of_any fun numbers => reads_sumFrom _ _ _

theorem reads_readNumber (text : List Char) : Reads (readNumber text) := by
  unfold readNumber
  dsimp only
  split
  · simp
  · simpa using reads_readUnsignedNumber _

theorem reads_readFlag (text : List Char) : Reads (readFlag text) := by
  unfold readFlag
  dsimp only
  split
  · simp
  · split
    · simp
    · exact rfl

theorem reads_zoneOffset (zone : Option (Bool × List Char × List Char)) :
    Reads (zoneOffset zone) := by
  unfold zoneOffset
  split
  · simp
  · dsimp only
    split <;> simp

theorem reads_stampValue (parts : StampText) : Reads (stampValue parts) := by
  unfold stampValue
  dsimp only
  split
  · simp
  · simp
  · rw [Reads, yields_bind]
    refine (reads_zoneOffset _).of_any fun offset => ?_
    split
    · split
      · simp
      · split <;> simp
    · simp

theorem reads_readStamp (text : List Char) : Reads (readStamp text) := by
  unfold readStamp
  split
  · exact reads_stampValue _
  · exact rfl

theorem reads_readBytes (text : List Char) : Reads (readBytes text) := by
  unfold readBytes
  split
  · split <;> simp
  · simp

theorem reads_scalarValue (tag : Tag) (text : List Char) : Reads (scalarValue tag text) := by
  unfold scalarValue
  split
  · simp
  · exact reads_readFlag text
  · exact reads_readInteger text
  · exact reads_readNumber text
  · exact reads_readBytes text
  · exact reads_readStamp text
  · simp

/-! ## Values -/

namespace Maker

/-- A step of making the values of a document fails only as the reading of it may, whatever
has been made so far. -/
def Makes {α : Type} (maker : Maker α) : Prop := ∀ making, Reads (maker making)

section Rules

variable {α β : Type}

theorem makes_pure (value : α) : Makes (pure value) := fun _ => trivial

theorem makes_get : Makes get := fun _ => trivial

theorem makes_modify (change : Making → Making) : Makes (modify change) := fun _ => trivial

theorem makes_stop {fault : Fault} (own : isReadingFault fault = true) :
    Makes (stop fault : Maker α) := fun _ => own

theorem makes_lift {outcome : Except Fault α} (reads : Reads outcome) :
    Makes (liftM outcome) := by
  intro making
  cases outcome with
  | ok value => trivial
  | error fault => exact reads

theorem Makes.bind {first : Maker β} {next : β → Maker α} (makes : Makes first)
    (others : ∀ value, Makes (next value)) : Makes (first >>= next) := by
  intro making
  change Yields isReadingFault _ (first making >>= fun found => next found.1 found.2)
  rw [yields_bind]
  exact (makes making).of_any fun found => others found.1 found.2

theorem Makes.ite {condition : Prop} [Decidable condition] {first second : Maker α}
    (makes : Makes first) (otherwise : Makes second) :
    Makes (if condition then first else second) := by
  split
  · exact makes
  · exact otherwise

theorem makes_foldlM {step : β → α → Maker β} (steps : ∀ state item, Makes (step state item))
    (items : List α) (state : β) : Makes (items.foldlM step state) := by
  induction items generalizing state with
  | nil => exact makes_pure state
  | cons item rest ih =>
    rw [List.foldlM_cons]
    exact (steps state item).bind ih

theorem makes_mapM {step : β → Maker α} (steps : ∀ item, Makes (step item)) (items : List β) :
    Makes (items.mapM step) := by
  induction items with
  | nil => exact makes_pure []
  | cons item rest ih =>
    rw [List.mapM_cons]
    exact (steps item).bind fun value => ih.bind fun values => makes_pure _

theorem makes_forM {step : β → Maker Unit} (steps : ∀ item, Makes (step item))
    (items : List β) : Makes (items.forM step) := by
  induction items with
  | nil => exact makes_pure ()
  | cons item rest ih => exact (steps item).bind fun _ => ih

end Rules

theorem makes_unsuited {α : Type} : Makes (unsuited : Maker α) :=
  makes_stop (isReadingFault_document _)

theorem makes_node (number : Nat) : Makes (node number) := by
  refine makes_get.bind fun making => ?_
  split
  · exact makes_pure _
  · exact makes_unsuited

theorem makes_put (number : Nat) (shape : Shape) : Makes (put number shape) := makes_modify _

theorem makes_scalarText (bound : Nat) (scalar : Node) : Makes (scalarText bound scalar) := by
  fun_induction scalarText bound scalar with
  | case1 => exact makes_pure _
  | case2 =>
    refine makes_get.bind fun making => ?_
    split
    · exact makes_unsuited
    · exact makes_stop rfl
  | case3 bound tag entries ih =>
    refine makes_get.bind fun making => ?_
    split
    · exact makes_unsuited
    · exact (makes_node _).bind ih
  | case4 => exact makes_unsuited

theorem makes_scalarOf (scalar : Node) : Makes (scalarOf scalar) := by
  refine makes_get.bind fun making => (makes_scalarText _ scalar).bind fun text => ?_
  exact (makes_stop rfl).ite (makes_lift (reads_scalarValue scalar.tag text))

theorem makes_simpleOf (simple : Node) : Makes (simpleOf simple) := by
  unfold simpleOf
  split
  · exact makes_stop (isReadingFault_document _)
  · exact makes_stop (isReadingFault_document _)
  · exact makes_stop (isReadingFault_document _)
  · exact makes_scalarOf simple

theorem makes_meet (number : Nat) : Makes (meet number) := by
  refine makes_get.bind fun making => Makes.ite ?_ (makes_pure ())
  refine (makes_node number).bind fun met => Makes.ite (makes_modify _) ?_
  exact (makes_simpleOf met).bind fun value => makes_put number (.value value)

theorem makes_meetKey (number : Nat) : Makes (meetKey number) := by
  refine (makes_meet number).bind fun _ => makes_get.bind fun making => ?_
  split
  · exact makes_pure _
  · exact makes_stop (isReadingFault_document _)

theorem makes_entriesOf (number : Nat) : Makes (entriesOf number) := by
  refine (makes_node number).bind fun found => ?_
  split
  · refine makes_get.bind fun making => ?_
    refine (makes_lift (Graph.reads_flatten making.bound making.graph number)).bind
      fun graph => (makes_modify _).bind fun _ => ?_
    refine makes_foldlM (fun known entry => ?_) _ _
    exact (makes_meetKey entry.1).bind fun key =>
      (makes_meet entry.2).bind fun _ => makes_pure _
  · exact makes_unsuited

theorem makes_itemsOf (number : Nat) : Makes (itemsOf number) := by
  refine (makes_node number).bind fun found => ?_
  split
  · exact makes_pure _
  · exact makes_unsuited

theorem makes_pairOf (number : Nat) : Makes (pairOf number) := by
  refine (makes_node number).bind fun found => ?_
  split
  · exact (makes_meet _).bind fun _ => (makes_meet _).bind fun _ => makes_pure _
  · exact makes_unsuited

theorem makes_shapeOf (number : Nat) : Makes (shapeOf number) := by
  refine (makes_node number).bind fun found => ?_
  split
  · exact (makes_entriesOf number).bind fun entries => makes_pure _
  · exact (makes_entriesOf number).bind fun entries => makes_pure _
  · exact (makes_itemsOf number).bind fun items =>
      (makes_forM makes_meet items).bind fun _ => makes_pure _
  · exact (makes_itemsOf number).bind fun items =>
      (makes_mapM makes_pairOf items).bind fun pairs => makes_pure _

theorem makes_fillFrom (bound place : Nat) : Makes (fillFrom bound place) := by
  induction bound generalizing place with
  | zero => exact makes_pure ()
  | succ bound ih =>
    refine makes_get.bind fun making => ?_
    split
    · exact makes_pure ()
    · exact (makes_shapeOf _).bind fun shape => (makes_put _ shape).bind fun _ => ih _

end Maker

theorem reads_value (graph : Graph) (root : Nat) : Reads (graph.value root) := by
  have made := (Maker.makes_meet root).bind fun _ => Maker.makes_fillFrom graph.size 0
  rw [Graph.value, Reads, yields_bind]
  exact (made (.start graph)).of_any fun _ => trivial

/-- The reading of a text fails only as the reading of a document may. -/
theorem reads_read (text : List Char) : Reads (read text) := by
  unfold read
  split
  · simp
  · rw [Reads, yields_bind]
    refine (Graph.reads_ofTokens (sound_tokens text)).of_any fun found => ?_
    split
    · exact reads_value _ _
    · simp

end Document

end LeaseRoster
