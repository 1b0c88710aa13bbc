import Mathlib
import GestureSuite.Model.Records
import GestureSuite.Soundness.Recording

/-! # Which sessions share a file

Two sessions have the same path exactly when they start in the same second of local time with labels that
come to the same safe label. As long as no two sessions do, a call changes no file but the one that is open
and the one it opens.
-/

namespace GestureSuite.Recorder

open Text

section Names

variable {fs : FileSystem}

/-- Digits are one unit each. -/
private theorem utf16Encode_digits {text : List Char} (digits : ∀ c ∈ text, c.isDigit = true) :
    utf16Encode text = text.map fun c => UInt16.ofNat c.toNat := by
  induction text with
  | nil => rfl
  | cons c rest ih =>
    have bounds := toNat_of_isDigit (digits c List.mem_cons_self)
    rw [utf16Encode_cons, utf16Char, if_pos (by omega), ih fun d member => digits d (List.mem_cons_of_mem c member)]
    rfl

/-- The file system leaves digits as they are. -/
private theorem key_digits {text : List Char} (digits : ∀ c ∈ text, c.isDigit = true) :
    fs.key (utf16Encode text) = utf16Encode text := by
  rw [utf16Encode_digits digits, FileSystem.key, List.map_map]
  apply List.map_congr_left
  intro c member
  have bounds := toNat_of_isDigit (digits c member)
  have unit : (UInt16.ofNat c.toNat).toNat = c.toNat := by
    rw [UInt16.toNat_ofNat']
    omega
  apply fs.upcase_digit
  · rw [UInt16.le_iff_toNat_le, unit]
    exact bounds.1
  · rw [UInt16.le_iff_toNat_le, unit]
    exact bounds.2

private theorem key_padDigits (width n : ℕ) :
    fs.key (utf16Encode (padDigits width n)) = utf16Encode (padDigits width n) :=
  key_digits fun _ => isDigit_of_mem_padDigits

/-- Numbers of one width in front of something can be told apart. -/
private theorem padDigits_append_inj (width : ℕ) (positive : 0 < width) {bound : ℕ} (fits : bound ≤ 10 ^ width)
    (n m : Fin bound) (rest rest' : NetString) :
    utf16Encode (padDigits width n) ++ rest = utf16Encode (padDigits width m) ++ rest' ↔ n = m ∧ rest = rest' := by
  constructor
  · intro same
    have size (k : Fin bound) : (utf16Encode (padDigits width k)).length = width := by
      rw [utf16Encode_digits fun _ => isDigit_of_mem_padDigits, List.length_map,
        length_padDigits positive (k.isLt.trans_le fits)]
    obtain ⟨units, tails⟩ := List.append_inj same ((size n).trans (size m).symm)
    have texts : padDigits width n = padDigits width m := by
      rw [← utf16Decode_utf16Encode (padDigits width n), units, utf16Decode_utf16Encode]
    have values : (n : ℕ) = m := by
      rw [← ofDigitChars_padDigits width n, texts, ofDigitChars_padDigits]
    exact ⟨Fin.ext values, tails⟩
  · rintro ⟨rfl, rfl⟩
    rfl

private theorem key_fileName (t : LocalTime) (label : NetString) :
    fs.key (fileName t label) =
      utf16Encode (padDigits 4 t.year) ++ (utf16Encode (padDigits 2 t.month) ++ (utf16Encode (padDigits 2 t.day) ++
        (fs.upcase 0x5F :: (utf16Encode (padDigits 2 t.hour) ++ (utf16Encode (padDigits 2 t.minute) ++
          (utf16Encode (padDigits 2 t.second) ++
            (fs.upcase 0x5F :: (fs.key (safeLabel label) ++ fs.key (utf16Encode ".csv".toList))))))))) := by
  have underscore : utf16Char '_' = [0x5F] := rfl
  rw [fileName, LocalTime.stamp, LocalTime.timeOfDay]
  simp only [utf16Encode_append, utf16Encode_cons, underscore, FileSystem.key, List.map_append, List.map_cons,
    List.append_assoc, List.cons_append, List.nil_append]
  simp only [← FileSystem.key.eq_def, key_padDigits]

/-- Two sessions have the same file name when their second and their safe label are the same. -/
private theorem key_fileName_eq_iff (t t' : LocalTime) (label label' : NetString) :
    fs.key (fileName t label) = fs.key (fileName t' label') ↔
      t = t' ∧ fs.key (safeLabel label) = fs.key (safeLabel label') := by
  have two {bound : ℕ} (fits : bound ≤ 10 ^ 2) := padDigits_append_inj 2 (by decide) fits
  rw [key_fileName, key_fileName, padDigits_append_inj 4 (by decide) (by decide), two (by decide), two (by decide),
    List.cons_inj_right, two (by decide), two (by decide), two (by decide), List.cons_inj_right, List.append_left_inj]
  obtain ⟨year, month, day, hour, minute, second⟩ := t
  obtain ⟨year', month', day', hour', minute', second'⟩ := t'
  simp only [LocalTime.mk.injEq, and_assoc]

private theorem getLast?_combine (path1 : NetString) {path2 : NetString} (nonempty : path2 ≠ []) :
    (combine path1 path2).getLast? = path2.getLast? := by
  rw [combine]
  split
  · rfl
  · split
    · exact List.getLast?_append_of_ne_nil path1 nonempty
    · rw [List.getLast?_append_of_ne_nil path1 (List.cons_ne_nil _ _), List.getLast?_cons_of_ne_nil nonempty]

/-- The folder's name does not end in a separator, so one is put in front of the file's name. -/
private theorem sessionPath_eq (t : LocalTime) (label : NetString) :
    fs.sessionPath t label = fs.baseFolder ++ 0x5C :: fileName t label := by
  have last : fs.baseFolder.getLast? = some 0x73 := getLast?_combine _ (List.cons_ne_nil _ _)
  rw [FileSystem.sessionPath, combine]
  rw [last]
  rfl

/-- Two sessions have the same path exactly when their second and their safe label are the same. -/
theorem key_sessionPath_eq_iff (t t' : LocalTime) (label label' : NetString) :
    fs.key (fs.sessionPath t label) = fs.key (fs.sessionPath t' label') ↔
      t = t' ∧ fs.key (safeLabel label) = fs.key (safeLabel label') := by
  rw [sessionPath_eq, sessionPath_eq, ← key_fileName_eq_iff]
  simp only [FileSystem.key, List.map_append, List.map_cons, List.append_cancel_left_eq, List.cons.injEq, true_and]

end Names

section Frames

variable (fs : FileSystem) (formats : Formats)

/-- The path a call opens. -/
private def opens (call : Call) : Option NetString :=
  call.session.map fun start => fs.sessionPath start.now start.sessionLabel

private theorem sessionPaths_cons (call : Call) (rest : List Call) :
    fs.sessionPaths (call :: rest) = (opens fs call).toList ++ fs.sessionPaths rest := by
  rw [FileSystem.sessionPaths, sessions, List.filterMap_cons, opens]
  cases call.session <;> rfl

private theorem sessionPaths_append (calls rest : List Call) :
    fs.sessionPaths (calls ++ rest) = fs.sessionPaths calls ++ fs.sessionPaths rest := by
  simp only [FileSystem.sessionPaths, sessions, List.filterMap_append, List.map_append]

private theorem persist_of_ne {path : Option NetString} {key : NetString} (other : ∀ p ∈ path, fs.key p ≠ key)
    (writer : Option Writer) (files : NetString → Option NetString) :
    Records.persist fs path writer files key = files key := by
  cases path with
  | none => rfl
  | some p =>
    cases writer with
    | none => rfl
    | some writer => exact Function.update_of_ne (other p rfl).symm _ _

/-- A call writes to the file that is open and to the one it opens. -/
private theorem next_files_of_ne {r : Records} {call : Call} {key : NetString}
    (current : ∀ p ∈ r.currentFilePath, fs.key p ≠ key) (opened : ∀ p ∈ opens fs call, fs.key p ≠ key) :
    (r.next fs formats call).files key = r.files key := by
  cases call with
  | startSession start =>
    rw [opens, Call.session] at opened
    rw [Records.next, Records.startSession]
    split
    · next created =>
      rw [if_pos created, Option.map_some] at opened
      dsimp only
      exact (persist_of_ne fs opened _ _).trans (persist_of_ne fs current _ _)
    · exact persist_of_ne fs current _ _
  | stopSession now => exact (persist_of_ne fs current _ _).trans (persist_of_ne fs current _ _)
  | log now call => exact persist_of_ne fs current _ _

private theorem next_currentFilePath (r : Records) (call : Call) :
    ∀ p ∈ (r.next fs formats call).currentFilePath, p ∈ r.currentFilePath ∨ p ∈ opens fs call := by
  intro p member
  cases call with
  | startSession start =>
    rw [Records.next, Records.startSession] at member
    rw [opens, Call.session]
    split at member
    · next created =>
      rw [if_pos created]
      exact .inr member
    · exact absurd member (by simp [Records.stopSessionInternal])
  | stopSession now => exact absurd member (by simp [Records.next, Records.stopSession, Records.stopSessionInternal])
  | log now call => exact .inl member

private theorem foldl_currentFilePath (calls : List Call) (r : Records) :
    ∀ p ∈ (calls.foldl (Records.next fs formats) r).currentFilePath,
      p ∈ r.currentFilePath ∨ p ∈ fs.sessionPaths calls := by
  induction calls generalizing r with
  | nil => exact fun p member => .inl member
  | cons call rest ih =>
    intro p member
    rw [sessionPaths_cons, List.mem_append, Option.mem_toList]
    rcases ih (r.next fs formats call) p member with before | later
    · rcases next_currentFilePath fs formats r call p before with current | opened
      · exact .inl current
      · exact .inr (.inl opened)
    · exact .inr (.inr later)

/-- A file that is not open is left as it is by calls that do not open it. -/
private theorem foldl_files_of_ne {key : NetString} (calls : List Call) (r : Records)
    (current : ∀ p ∈ r.currentFilePath, fs.key p ≠ key) (opened : ∀ p ∈ fs.sessionPaths calls, fs.key p ≠ key) :
    (calls.foldl (Records.next fs formats) r).files key = r.files key := by
  induction calls generalizing r with
  | nil => rfl
  | cons call rest ih =>
    rw [sessionPaths_cons] at opened
    have first : ∀ p ∈ opens fs call, fs.key p ≠ key := fun p member =>
      opened p (List.mem_append_left _ (Option.mem_toList.mpr member))
    rw [List.foldl_cons, ih, next_files_of_ne fs formats current first]
    · intro p member
      rcases next_currentFilePath fs formats r call p member with before | now
      · exact current p before
      · exact first p now
    · exact fun p member => opened p (List.mem_append_right _ member)

end Frames

/-- No two sessions share a file, and later calls leave the file of a session that is closed as it is. -/
structure Preserved (fs : FileSystem) (formats : Formats) (files : NetString → Option NetString) (calls : List Call) :
    Prop where
  distinct : ((fs.sessionPaths calls).map fs.key).Nodup
  kept : ∀ before after, calls = before ++ after → ∀ path ∈ fs.sessionPaths before,
    (recordsAfter fs formats files before).currentFilePath ≠ some path →
    (recordsAfter fs formats files calls).files (fs.key path) =
      (recordsAfter fs formats files before).files (fs.key path)

/-- Started in the same second of local time, with the same safe label. -/
def SameName (fs : FileSystem) (start start' : Start) : Prop :=
  start.now = start'.now ∧ fs.key (safeLabel start.sessionLabel) = fs.key (safeLabel start'.sessionLabel)

private theorem distinct_iff (fs : FileSystem) (calls : List Call) :
    ((fs.sessionPaths calls).map fs.key).Nodup ↔
      (sessions calls).Pairwise fun start start' => ¬SameName fs start start' := by
  rw [FileSystem.sessionPaths, List.map_map, List.Nodup, List.pairwise_map]
  simp only [Function.comp_apply, ne_eq, key_sessionPath_eq_iff, SameName]

private theorem kept_of_distinct {fs : FileSystem} {formats : Formats} {files : NetString → Option NetString}
    {before after : List Call} (distinct : ((fs.sessionPaths (before ++ after)).map fs.key).Nodup) {path : NetString}
    (started : path ∈ fs.sessionPaths before)
    (closed : (recordsAfter fs formats files before).currentFilePath ≠ some path) :
    (recordsAfter fs formats files (before ++ after)).files (fs.key path) =
      (recordsAfter fs formats files before).files (fs.key path) := by
  rw [sessionPaths_append, List.map_append, List.nodup_append'] at distinct
  obtain ⟨first, -, apart⟩ := distinct
  rw [recordsAfter, List.foldl_append]
  apply foldl_files_of_ne fs formats after
  · intro p current same
    rcases foldl_currentFilePath fs formats before { files } p current with none | earlier
    · exact absurd none (by simp)
    · obtain rfl := List.inj_on_of_nodup_map first earlier started same
      exact closed current
  · intro p later same
    exact apart (List.mem_map_of_mem started) (same ▸ List.mem_map_of_mem later)

/-- Sessions are preserved exactly in the runs where no two of them start in the same second of local time
with labels that come to the same safe label. -/
theorem sessions_preserved_iff (fs : FileSystem) (formats : Formats) (files : NetString → Option NetString)
    (calls : List Call) :
    Preserved fs formats files calls ↔
      (sessions calls).Pairwise fun start start' => ¬SameName fs start start' := by
  rw [← distinct_iff]
  constructor
  · exact fun preserved => preserved.distinct
  · intro distinct
    refine ⟨distinct, ?_⟩
    rintro before after rfl path started closed
    exact kept_of_distinct distinct started closed

/-- A file system that compares ASCII letters without their case. -/
def sampleFileSystem : FileSystem where
  localApplicationData := utf16Encode "C:\\Users\\lab\\AppData\\Local".toList
  upcase unit := if 0x61 ≤ unit ∧ unit ≤ 0x7A then unit - 0x20 else unit
  upcase_digit unit _ upper := if_neg fun letter => absurd (UInt16.le_trans letter.1 upper) (by decide)

def sampleLocalTime : LocalTime :=
  { year := 2024, month := 1, day := 1, hour := 9, minute := 30, second := 0 }

/-- A session that is stopped and started again within the second, with the readings of the clock in order. -/
def restartedCalls : List Call :=
  [.startSession
    { now := sampleLocalTime, opened := (sampleClock 1).timestamp, reads := sampleClock 1
      sessionLabel := utf16Encode "Walk".toList },
   .log (sampleClock 2) (.logMarker (utf16Encode "first".toList)),
   .stopSession (sampleClock 3),
   .startSession
    { now := sampleLocalTime, opened := (sampleClock 4).timestamp, reads := sampleClock 4
      sessionLabel := utf16Encode " walk".toList }]

def walkPath : NetString := sampleFileSystem.sessionPath sampleLocalTime (utf16Encode "Walk".toList)

/-- The second session empties the file of the first. -/
theorem restarted_session_destroyed :
    ¬Preserved sampleFileSystem sampleFormats (fun _ => none) restartedCalls ∧
      (recordsAfter sampleFileSystem sampleFormats (fun _ => none) restartedCalls).files
          (sampleFileSystem.key walkPath) ≠
        (recordsAfter sampleFileSystem sampleFormats (fun _ => none) (restartedCalls.take 3)).files
          (sampleFileSystem.key walkPath) := by
  have emptied : (recordsAfter sampleFileSystem sampleFormats (fun _ => none) restartedCalls).files
      (sampleFileSystem.key walkPath) ≠
      (recordsAfter sampleFileSystem sampleFormats (fun _ => none) (restartedCalls.take 3)).files
        (sampleFileSystem.key walkPath) := by
    decide +kernel
  refine ⟨fun preserved => ?_, emptied⟩
  have started : walkPath ∈ sampleFileSystem.sessionPaths (restartedCalls.take 3) := by decide +kernel
  exact emptied (preserved.kept (restartedCalls.take 3) (restartedCalls.drop 3) rfl walkPath started
    (by decide))

end GestureSuite.Recorder
