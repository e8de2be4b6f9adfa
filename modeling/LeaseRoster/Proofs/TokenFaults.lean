import LeaseRoster.Document.Scan
import LeaseRoster.Proofs.FaultKinds
import Mathlib.Data.List.InsertIdx

/-!
# The faults of tokens

Tokens are searched for until one of them goes wrong.  The fault is kept as the last token,
where the reader of the nodes meets it, who need not get so far.  So what has to be kept is
that no token found stands for a fault that documents do not have.
-/

namespace LeaseRoster

namespace Document

/-- Whether a fault is one of those that the reading of a document may have. -/
def isReadingFault : Fault → Bool
  | .document _ => true
  | .value _ => true
  | .wrongKind => true
  | .foreignValue => true
  | .missingKey => true
  | .missingItem => true
  | .tooDeep => true
  | .beyondRange => true
  | _ => false

section Kinds

@[simp] theorem isReadingFault_document (fault : DocumentFault) :
    isReadingFault (.document fault) = true := rfl

@[simp] theorem isReadingFault_value (fault : ValueFault) :
    isReadingFault (.value fault) = true := rfl

@[simp] theorem isReadingFault_missingItem : isReadingFault .missingItem = true := rfl

@[simp] theorem isReadingFault_beyondRange : isReadingFault .beyondRange = true := rfl

end Kinds

/-- An outcome fails only as the reading of a document may. -/
abbrev Reads {α : Type} (outcome : Except Fault α) : Prop :=
  Yields isReadingFault (fun _ => True) outcome

/-! ## Names, tags and directives -/

theorem reads_nameAt (cursor : Cursor) : Reads (nameAt cursor) := by
  unfold nameAt
  dsimp only
  split <;> simp

theorem reads_percentBytes (text : List Char) : Reads (percentBytes text) := by
  fun_induction percentBytes text with
  | case1 high low rest value known ih => simpa using ih
  | case2 => simp
  | case3 => simp
  | case4 => simp

theorem reads_resolveEscapes (fuel : Nat) (text : List Char) :
    Reads (resolveEscapes fuel text) := by
  fun_induction resolveEscapes fuel text with
  | case1 => simp
  | case2 => simp
  | case3 fuel rest ih =>
    rw [Reads, yields_bind]
    refine (reads_percentBytes _).of_any fun (bytes, behind) => ?_
    dsimp only
    split
    · simpa using ih behind
    · simp
  | case4 fuel character rest _ ih => simpa using ih

theorem reads_tagPart (cursor : Cursor) : Reads (tagPart cursor) := by
  unfold tagPart
  dsimp only
  split
  · simp
  · simpa using reads_resolveEscapes _ _

theorem reads_handleAt (cursor : Cursor) : Reads (handleAt cursor) := by
  unfold handleAt
  split
  · simp
  · dsimp only
    split <;> simp
  · simp

theorem reads_tagParts (cursor : Cursor) : Reads (tagParts cursor) := by
  unfold tagParts
  split
  · rw [Reads, yields_bind]
    refine (reads_tagPart _).of_any fun (suffix, behind) => ?_
    dsimp only
    split <;> simp
  · split
    · simp
    · split
      · rw [Reads, yields_bind]
        refine (reads_handleAt _).of_any fun (handle, start) => ?_
        simpa using reads_tagPart start
      · simpa using reads_tagPart _

theorem reads_versionNumber (cursor : Cursor) : Reads (versionNumber cursor) := by
  unfold versionNumber
  dsimp only
  split
  · simp
  · split <;> simp

theorem reads_versionAt (cursor : Cursor) : Reads (versionAt cursor) := by
  rw [versionAt, Reads, yields_bind]
  refine (reads_versionNumber _).of_any fun (major, behind) => ?_
  dsimp only
  split
  · simp
  · rw [yields_bind]
    refine (reads_versionNumber _).of_any fun (minor, last) => ?_
    dsimp only
    split <;> simp

theorem reads_declarationAt (cursor : Cursor) : Reads (declarationAt cursor) := by
  rw [declarationAt, Reads, yields_bind]
  refine (reads_handleAt _).of_any fun (handle, behind) => ?_
  dsimp only
  split
  · simp
  · rw [yields_bind]
    refine (reads_tagPart _).of_any fun (meaning, last) => ?_
    dsimp only
    split <;> simp

theorem reads_directiveValue (name : List Char) (cursor : Cursor) :
    Reads (directiveValue name cursor) := by
  unfold directiveValue
  split
  · exact reads_versionAt cursor
  · split
    · exact reads_declarationAt cursor
    · simp

/-! ## Quoted texts and blocks -/

theorem reads_charOfCode (code : Nat) : Reads (charOfCode code) := by
  unfold charOfCode
  split
  · simp
  · split <;> simp

theorem reads_quotedBreaks (fuel : Nat) (cursor : Cursor) (read : List Char) :
    Reads (quotedBreaks fuel cursor read) := by
  fun_induction quotedBreaks fuel cursor read with
  | case1 => simp
  | case2 => simp
  | case3 => simp
  | case4 fuel cursor read apart behind lineBreak next _ _ ih => exact ih

theorem reads_breaksFrom (cursor : Cursor) : Reads (breaksFrom cursor) :=
  reads_quotedBreaks _ cursor []

theorem reads_quotedBlanks (cursor : Cursor) : Reads (quotedBlanks cursor) := by
  unfold quotedBlanks
  dsimp only
  split
  · split <;> simp
  · simpa using reads_breaksFrom _

theorem reads_escape (cursor : Cursor) : Reads (escape cursor) := by
  unfold escape
  split
  · simp
  · split
    · simp
    · split
      · simp
      · split
        · simp
        · simpa using reads_charOfCode _
    · split
      · exact reads_breaksFrom _
      · simp

theorem reads_quotedFrom (isDouble : Bool) (fuel : Nat) (cursor : Cursor) (read : List Char) :
    Reads (quotedFrom isDouble fuel cursor read) := by
  induction fuel generalizing cursor read with
  | zero => simp [quotedFrom]
  | succ fuel ih =>
    rw [quotedFrom]
    split
    · simp
    · split
      · exact ih _ _
      · split
        · exact ih _ _
        · simp
    · split
      · simp
      · exact ih _ _
    · split
      · rw [Reads, yields_bind]
        exact (reads_escape _).of_any fun (text, next) => ih _ _
      · split
        · rw [Reads, yields_bind]
          exact (reads_quotedBlanks _).of_any fun (text, next) => ih _ _
        · exact ih _ _

theorem reads_quotedText (cursor : Cursor) : Reads (quotedText cursor) :=
  reads_quotedFrom _ _ _ _

theorem reads_blockHeader (cursor : Cursor) : Reads (blockHeader cursor) := by
  unfold blockHeader
  dsimp only
  split
  · simp
  · split <;> simp

theorem reads_blockText (isFolded : Bool) (outer : Int) (cursor : Cursor) :
    Reads (blockText isFolded outer cursor) := by
  rw [blockText, Reads, yields_bind]
  refine (reads_blockHeader _).of_any fun (header, start) => ?_
  dsimp only
  split <;> simp

/-! ## Tokens -/

/-- Whether a token is none that stands for another fault. -/
def Token.isSound : Token → Bool
  | .broken fault => isReadingFault fault
  | _ => true

/-- None of some tokens stands for another fault. -/
def Sound (tokens : List Token) : Prop := ∀ token ∈ tokens, token.isSound = true

@[simp] theorem sound_nil : Sound [] := nofun

@[simp] theorem sound_cons (token : Token) (tokens : List Token) :
    Sound (token :: tokens) ↔ token.isSound = true ∧ Sound tokens :=
  List.forall_mem_cons

theorem Sound.rest {token : Token} {tokens : List Token} (sound : Sound (token :: tokens)) :
    Sound tokens :=
  ((sound_cons token tokens).mp sound).2

@[simp] theorem sound_reverse (tokens : List Token) : Sound tokens.reverse ↔ Sound tokens := by
  simp [Sound]

theorem Sound.insertIdx {tokens : List Token} (sound : Sound tokens) {token : Token}
    (own : token.isSound = true) (place : Nat) : Sound (tokens.insertIdx place token) := by
  intro found member
  rcases List.eq_or_mem_of_mem_insertIdx member with rfl | older
  · exact own
  · exact sound found older

/-- A reader of tokens fails only as the reading of a document may, and finds no token that
stands for another fault. -/
abbrev Finds (outcome : Except Fault (Token × Cursor)) : Prop :=
  Yields isReadingFault (fun found => found.1.isSound = true) outcome

theorem finds_tagAt (cursor : Cursor) : Finds (tagAt cursor) := by
  rw [tagAt, Finds, yields_bind]
  refine (reads_tagParts cursor).of_any fun ((handle, suffix), behind) => ?_
  dsimp only
  split <;> simp [Token.isSound]

theorem finds_directiveAt (cursor : Cursor) : Finds (directiveAt cursor) := by
  unfold directiveAt
  dsimp only
  split
  · simp
  · rw [Finds, yields_bind]
    refine (reads_directiveValue _ _).of_any fun (directive, last) => ?_
    dsimp only
    split <;> simp [Token.isSound]

namespace Scan

/-- A step between two tokens fails only as the reading of a document may, and leaves no token
that stands for another fault. -/
abbrev Advances (outcome : Except Fault Scan) : Prop :=
  Yields isReadingFault (fun next => Sound next.tokens) outcome

section Parts

variable (scan : Scan)

@[simp] theorem tokens_push (token : Token) : (scan.push token).tokens = token :: scan.tokens :=
  rfl

@[simp] theorem tokens_moveTo (cursor : Cursor) : (scan.moveTo cursor).tokens = scan.tokens := rfl

@[simp] theorem tokens_allowKey (allowsKey : Bool) :
    (scan.allowKey allowsKey).tokens = scan.tokens := rfl

@[simp] theorem tokens_indented (column : Nat) : (scan.indented column).tokens = scan.tokens :=
  rfl

@[simp] theorem tokens_mark (token : Token) (width : Nat) :
    (scan.mark token width).tokens = token :: scan.tokens := rfl

theorem tokens_skipOrderMark : scan.skipOrderMark.tokens = scan.tokens := by
  unfold skipOrderMark
  split <;> rfl

theorem tokens_skipToToken (fuel : Nat) : (scan.skipToToken fuel).tokens = scan.tokens := by
  induction fuel generalizing scan with
  | zero => rfl
  | succ fuel ih =>
    rw [skipToToken]
    split
    · rfl
    · exact ih _

end Parts

section Steps

variable {scan : Scan} (sound : Sound scan.tokens)
include sound

theorem sound_unwindTo (column : Int) (outer : List Int) :
    Sound (scan.unwindTo column outer).tokens := by
  induction outer generalizing scan with
  | nil => exact sound
  | cons next outer ih =>
    rw [unwindTo]
    split
    · exact ih ((sound_cons _ _).mpr ⟨rfl, sound⟩)
    · exact sound

theorem sound_unwind (column : Int) : Sound (scan.unwind column).tokens := by
  unfold unwind
  split
  · exact sound
  · exact sound_unwindTo sound column _

theorem sound_openBlock {token : Token} (own : token.isSound = true) :
    Sound (scan.openBlock token).tokens := by
  unfold openBlock
  dsimp only
  split
  · simpa using ⟨own, sound⟩
  · exact sound

theorem sound_valueOfKey (place : KeyPlace) : Sound (scan.valueOfKey place).tokens := by
  have marked : Sound (scan.tokens.insertIdx (scan.count - place.number) .key) :=
    sound.insertIdx rfl _
  unfold valueOfKey
  dsimp only
  split
  · simpa [insertAt, Token.isSound] using marked.insertIdx rfl _
  · simpa [insertAt, Token.isSound] using marked

theorem advances_dropStale : Advances scan.dropStale := by
  unfold dropStale
  dsimp only
  split
  · simp
  · exact sound

theorem advances_dropKey : Advances scan.dropKey := by
  unfold dropKey
  split
  · split
    · simp
    · exact sound
  · exact sound

theorem advances_keepKey : Advances scan.keepKey := by
  unfold keepKey
  split
  · simpa using advances_dropKey sound
  · exact sound

theorem advances_leaveDocument : Advances scan.leaveDocument := by
  simpa [leaveDocument] using advances_dropKey (sound_unwind sound (-1))

theorem advances_finish : Advances scan.finish := by
  simpa [finish, Token.isSound] using advances_leaveDocument sound

theorem advances_directive : Advances scan.directive := by
  rw [directive, Advances, yields_bind]
  refine (advances_leaveDocument sound).mono fun left kept => ?_
  rw [yields_bind]
  exact (finds_directiveAt scan.cursor).mono fun found own => by simpa using ⟨own, kept⟩

theorem advances_separator {token : Token} (own : token.isSound = true) :
    Advances (scan.separator token) := by
  simpa [separator, own] using advances_leaveDocument sound

theorem advances_openFlow {token : Token} (own : token.isSound = true) :
    Advances (scan.openFlow token) := by
  simpa [openFlow, own] using advances_keepKey sound

theorem advances_closeFlow {token : Token} (own : token.isSound = true) :
    Advances (scan.closeFlow token) := by
  rw [closeFlow, Advances, yields_bind]
  refine (advances_dropKey sound).mono fun dropped kept => ?_
  split
  · simp
  · simpa [own] using kept

theorem advances_flowEntry : Advances scan.flowEntry := by
  have dropped : Advances (scan.allowKey true).dropKey := advances_dropKey sound
  simpa [flowEntry, Token.isSound] using dropped

theorem advances_opened {token : Token} (own : token.isSound = true) (allowsKey : Bool) :
    Advances ((scan.openBlock token).allowKey allowsKey).dropKey :=
  advances_dropKey (sound_openBlock sound own)

theorem advances_blockEntry : Advances scan.blockEntry := by
  have opened : Advances ((scan.openBlock .listStart).allowKey true).dropKey :=
    advances_opened sound rfl true
  unfold blockEntry
  split
  · simp
  · simpa [Token.isSound] using opened

theorem advances_explicitKey : Advances scan.explicitKey := by
  have opened : Advances ((scan.openBlock .mappingStart).allowKey (!scan.inFlow)).dropKey :=
    advances_opened sound rfl _
  unfold explicitKey
  split
  · simp
  · simpa [Token.isSound] using opened

theorem advances_value : Advances scan.value := by
  have opened : Advances ((scan.openBlock .mappingStart).allowKey (!scan.inFlow)).dropKey :=
    advances_opened sound rfl _
  unfold value
  split
  · exact sound_valueOfKey sound _
  · split
    · simp
    · simpa [Token.isSound] using opened

theorem advances_keyed {read : Cursor → Except Fault (Token × Cursor)}
    (finds : ∀ cursor, Finds (read cursor)) : Advances (keyed read scan) := by
  rw [keyed, Advances, yields_bind]
  refine (advances_keepKey sound).mono fun kept keptSound => ?_
  rw [yields_bind]
  exact (finds scan.cursor).mono fun found own => by simpa using ⟨own, keptSound⟩

theorem advances_named {token : String → Token} (own : ∀ name, (token name).isSound = true) :
    Advances (named token scan) :=
  advances_keyed sound fun cursor => by simpa [own] using reads_nameAt cursor

theorem advances_quoted : Advances scan.quoted :=
  advances_keyed sound fun cursor => by simpa [Token.isSound] using reads_quotedText cursor

theorem advances_block (isFolded : Bool) : Advances (scan.block isFolded) := by
  have dropped : Advances (scan.allowKey true).dropKey := advances_dropKey sound
  rw [block, Advances, yields_bind]
  refine dropped.mono fun next kept => ?_
  rw [yields_bind]
  refine (reads_blockText isFolded scan.indent scan.cursor).of_any fun found => ?_
  simpa [Token.isSound] using kept

theorem advances_plain : Advances scan.plain := by
  simpa [plain, Token.isSound] using advances_keepKey sound

/-- Every character starts a token of its kind, or none. -/
theorem advances_token (character : Char) : Advances (scan.token character) :=
  (advances_directive sound).ite <|
  (advances_separator sound rfl).ite <|
  (advances_separator sound rfl).ite <|
  (advances_openFlow sound rfl).ite <|
  (advances_openFlow sound rfl).ite <|
  (advances_closeFlow sound rfl).ite <|
  (advances_closeFlow sound rfl).ite <|
  (advances_flowEntry sound).ite <|
  (advances_blockEntry sound).ite <|
  (advances_explicitKey sound).ite <|
  (advances_value sound).ite <|
  (advances_named sound fun _ => rfl).ite <|
  (advances_named sound fun _ => rfl).ite <|
  (advances_keyed sound finds_tagAt).ite <|
  (advances_block sound false).ite <|
  (advances_block sound true).ite <|
  (advances_quoted sound).ite <|
  (advances_plain sound).ite <|
  isReadingFault_document _

theorem advances_atToken : Advances scan.atToken := by
  have skipped : Sound (scan.skipOrderMark.skipToToken (scan.cursor.rest.length + 1)).tokens := by
    rw [tokens_skipToToken, tokens_skipOrderMark]
    exact sound
  rw [atToken, Advances, yields_bind]
  exact (advances_dropStale skipped).mono fun fresh kept => sound_unwind kept _

/-- A run ends with the fault of its last step, if it has one. -/
theorem sound_run (fuel : Nat) : Sound (scan.run fuel) := by
  have broken {scan : Scan} (sound : Sound scan.tokens) {fault : Fault}
      (own : isReadingFault fault = true) : Sound (scan.push (.broken fault)).tokens.reverse :=
    (sound_reverse _).mpr ((sound_cons _ _).mpr ⟨own, sound⟩)
  induction fuel generalizing scan with
  | zero => exact (sound_reverse _).mpr sound
  | succ fuel ih =>
    have placed := advances_atToken sound
    rw [run]
    -- Whichever step fails, its fault is the last token, behind those that were sound.
    split
    next fault failed => exact broken sound (placed.kind_of_error failed)
    next ready found =>
      rw [found] at placed
      have ended := advances_finish placed
      split
      · split
        next last done =>
          rw [done] at ended
          exact (sound_reverse _).mpr ended
        next fault failed => exact broken placed (ended.kind_of_error failed)
      next character _ =>
        have stepped := advances_token placed character
        split
        next next done =>
          rw [done] at stepped
          exact ih stepped
        next fault failed => exact broken placed (stepped.kind_of_error failed)

end Steps

end Scan

theorem sound_tokens (text : List Char) : Sound (tokens text) :=
  Scan.sound_run sound_nil _

end Document

end LeaseRoster
