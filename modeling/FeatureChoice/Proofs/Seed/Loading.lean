import FeatureChoice.Proofs.Text.Utf8
import FeatureChoice.Seed.Load
/-!
Loading seed files, whatever loader reads the documents. Of every file there is a seed, or an error
of the seed that names the file, or one of four other faults: a path with a null character, bytes
that are not the encoding of any text, a document at which the loader stops for another reason than
that it is none, and an integer with too many digits to be written.

* `Files.Tree.read_eq_nullByte_iff`: a null character in a path is found before anything is read.
* `Seed.Escapes`: the faults that are no errors of the seed (`Seed.escapes_iff`).
* `Seed.ofFile_cases`: what comes of a seed file.
-/

namespace FeatureChoice

/-! ### Null characters -/

namespace Files.Tree

theorem step_ne_nullByte (place : Place) (part : String) : step place part ≠ .error .nullByte := by
  unfold step
  split
  · simp
  · cases place with
    | inside parts =>
      dsimp only
      split
      · split <;> simp
      · simp
    | above levels => dsimp only; split <;> simp
    | root => dsimp only; split <;> simp

theorem follow_ne_nullByte (t : Tree) (parts : List String) (place : Place) :
    t.follow place parts ≠ .error .nullByte := by
  induction parts generalizing place with
  | nil => simp [follow]
  | cons part parts ih =>
    rw [follow]
    match t.at? place with
    | none => simp
    | some (.file _) => simp
    | some .directory =>
      have further := step_ne_nullByte place part
      cases went : step place part with
      | error errno =>
        rw [went] at further
        exact further
      | ok next => exact ih next

/-- What a path names is looked for only if there is no null character in the path. -/
theorem read_eq_nullByte_iff (t : Tree) (p : Path) :
    t.read p = .error .nullByte ↔ ∃ ch ∈ p.toText.toList, ch.toNat = 0 := by
  have located : t.locate p = .error .nullByte ↔ ∃ ch ∈ p.toText.toList, ch.toNat = 0 := by
    unfold locate
    split
    · next null => simpa using null
    · next clean =>
      have elsewhere := t.follow_ne_nullByte p.parts (if p.root = "" then .inside [] else .root)
      split <;> simp_all
  rw [← located]
  simp only [read, find, bind, Except.bind]
  cases t.locate p with
  | error errno => simp
  | ok place =>
    dsimp only
    cases t.at? place with
    | none => simp [throw, throwThe, MonadExceptOf.throw]
    | some node => cases node <;> simp [pure, Except.pure, throw, throwThe, MonadExceptOf.throw]

end Files.Tree

/-! ### Seeds -/

namespace Seed

open String (utf8EncodeChar)

variable {loader : Yaml.Loader} {files : Files.Tree} {path : Files.Path} {bytes : List UInt8}
  {text : List Char}

/-- The faults of a seed file that are no errors of the seed. -/
inductive Escapes (loader : Yaml.Loader) (files : Files.Tree) (path : Files.Path) :
    Fault → Prop where
  /-- The path cannot be the path of a file. -/
  | nullByte (null : ∃ ch ∈ path.toText.toList, ch.toNat = 0) :
    Escapes loader files path (.file ⟨.nullByte, path.toText⟩)
  /-- The bytes are not the encoding of any text. -/
  | encoding {bytes e} (there : files.read path = .ok bytes)
    (refused : Text.decodeUtf8 bytes = .error e) : Escapes loader files path (.encoding e)
  /-- The loader stops, but not because the text is no document. -/
  | data {text e} (there : files.read path = .ok (text.flatMap utf8EncodeChar))
    (broken : loader (Text.unifyLineEnds text) = .error e) (wellFormed : e ≠ .invalid) :
    Escapes loader files path (.data e)
  /-- What is wrong with the mapping cannot be written. -/
  | longInteger {text data cause} (there : files.read path = .ok (text.flatMap utf8EncodeChar))
    (loaded : loader (Text.unifyLineEnds text) = .ok data) (wrong : ofData data = .error cause)
    (unwritable : cause.isWritable = false) : Escapes loader files path .longInteger

theorem parse_of_ok (source : String) {data : Value} {truths : SeedTruths}
    (read : ofData data = .ok truths) : parse source data = .ok truths := by
  rw [parse, read]
  rfl

/-- What is wrong with a seed is reported with its source, if it can be written. -/
theorem parse_of_error (source : String) {data : Value} {cause : Cause}
    (wrong : ofData data = .error cause) :
    parse source data =
      .error (if cause.isWritable then .seed ⟨source, cause⟩ else .longInteger) := by
  rw [parse, wrong]
  rfl

theorem ofFile_of_read (there : files.read path = .ok bytes) :
    ofFile loader files path = ofBytes loader path.toText bytes := by
  rw [ofFile, there]

/-- A file with the encoding of a text is read as this text. -/
theorem ofFile_of_text (there : files.read path = .ok (text.flatMap utf8EncodeChar)) :
    ofFile loader files path = ofText loader path.toText (Text.unifyLineEnds text) := by
  rw [ofFile_of_read there, ofBytes, (Text.decodeUtf8_eq_ok_iff _ _).mpr rfl]

/-- What escapes is what comes of the file, and no error of the seed. -/
theorem Escapes.ofFile {f : Fault} (escapes : Escapes loader files path f) :
    ofFile loader files path = .error f ∧ ∀ e, f ≠ .seed e := by
  refine ⟨?_, fun e => by cases escapes <;> simp⟩
  cases escapes with
  | nullByte null => rw [Seed.ofFile, (files.read_eq_nullByte_iff path).mpr null]
  | encoding there refused =>
    rw [ofFile_of_read there, ofBytes, refused]
    rfl
  | data there broken wellFormed =>
    rw [ofFile_of_text there, ofText, broken]
    split
    · next same => exact absurd (Except.error.inj same) wellFormed
    · next same =>
      cases same
      rfl
    · next same => cases same
  | longInteger there loaded wrong unwritable =>
    rw [ofFile_of_text there, ofText, loaded]
    show parse path.toText _ = _
    rw [parse_of_error _ wrong, unwritable]
    rfl

/-- Of every file there is a seed, or an error of the seed that names the file, or a fault of
another kind. -/
theorem ofFile_cases (loader : Yaml.Loader) (files : Files.Tree) (path : Files.Path) :
    (∃ truths, ofFile loader files path = .ok truths) ∨
      (∃ cause, ofFile loader files path = .error (.seed ⟨path.toText, cause⟩)) ∨
        ∃ f, Escapes loader files path f := by
  cases there : files.read path with
  | error errno =>
    by_cases null : errno = .nullByte
    · rw [null, files.read_eq_nullByte_iff] at there
      exact .inr (.inr ⟨_, .nullByte there⟩)
    · refine .inr (.inl ⟨.unreadable errno, ?_⟩)
      rw [ofFile, there]
      cases errno with
      | nullByte => exact absurd rfl null
      | _ => rfl
  | ok bytes =>
    cases read : Text.decodeUtf8 bytes with
    | error e => exact .inr (.inr ⟨_, .encoding there read⟩)
    | ok text =>
      obtain rfl := (Text.decodeUtf8_eq_ok_iff _ _).mp read
      have same : ofFile loader files path = _ := ofFile_of_text there
      cases loaded : loader (Text.unifyLineEnds text) with
      | error e =>
        by_cases invalid : e = .invalid
        · rw [ofText, loaded, invalid] at same
          exact .inr (.inl ⟨_, same⟩)
        · exact .inr (.inr ⟨_, .data there loaded invalid⟩)
      | ok data =>
        have same : ofFile loader files path = parse path.toText data := by
          rw [same, ofText, loaded]
        cases read : ofData data with
        | ok truths =>
          rw [parse_of_ok _ read] at same
          exact .inl ⟨truths, same⟩
        | error cause =>
          rw [parse_of_error _ read] at same
          cases writable : cause.isWritable with
          | true =>
            rw [writable] at same
            exact .inr (.inl ⟨cause, same⟩)
          | false => exact .inr (.inr ⟨_, .longInteger there loaded read writable⟩)

/-- The faults of a seed file that are no errors of the seed are these. -/
theorem escapes_iff (f : Fault) :
    Escapes loader files path f ↔ ofFile loader files path = .error f ∧ ∀ e, f ≠ .seed e := by
  refine ⟨Escapes.ofFile, fun ⟨failed, other⟩ => ?_⟩
  rcases ofFile_cases loader files path with ⟨truths, went⟩ | ⟨cause, went⟩ | ⟨g, escapes⟩
  · rw [failed] at went
    cases went
  · rw [failed] at went
    cases went
    exact absurd rfl (other _)
  · have went := escapes.ofFile.1
    rw [failed] at went
    cases went
    exact escapes

end Seed

end FeatureChoice
