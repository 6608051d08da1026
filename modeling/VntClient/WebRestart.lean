import VntClient.WebService

/-!
What the HTTP service begins with after a restart: the record names the configuration that
was started last, without its directory, and is read without the blanks around it.
-/

namespace VntClient
open FilePaths (Location Tree Change Plain)
open WireFormat.FieldCodec (utf8 ofUtf8 ofUtf8_utf8)
open WebNote WebState

variable {SocketAddr : Type} {env : WebEnv SocketAddr} {initial : Tree} {auto : Option StartFile}
  {notes : List (WebNote SocketAddr)}

theorem plain_configDir : Plain configDir := by decide +kernel

theorem plain_of_loaded {given : Option (List Char)} {tree : Tree} {file : StartFile}
    {content : String} {config : CoreConfig SocketAddr}
    (asked : Asked (env.determineAutoStartFile initial given) file)
    (loaded : env.load tree file = some (content, config)) : Plain file.fileName.toList := by
  rcases asked with own | ⟨valid, path⟩
  -- At the start the name is the last part of a path.
  · rw [WebEnv.determineAutoStartFile] at own
    obtain ⟨path, _, own⟩ := Option.bind_eq_some_iff.mp own
    obtain ⟨name, named, own⟩ := Option.bind_eq_some_iff.mp own
    split at own
    · cases own
      rw [String.toList_ofList]
      exact FilePaths.plain_fileName named
    · cases own
  -- A request gives a valid name, which `.` is too: but nothing is read from the directory.
  · obtain ⟨text, read, _⟩ := Option.bind_eq_some_iff.mp loaded
    rw [path] at read
    obtain ⟨location, bytes, there, held, _⟩ := located_of_read read
    simp only [isValidFileName, Bool.and_eq_true, Bool.not_eq_true', List.contains_eq_mem,
      decide_eq_false_iff_not] at valid
    obtain ⟨⟨⟨nonempty, dots⟩, single⟩, _⟩ := valid
    refine ⟨by simpa using nonempty, ?_, ?_, single⟩
    · intro here
      have inner := FilePaths.locate_inside plain_configDir single there
      rw [here, FilePaths.walk] at inner
      split at inner
      · cases inner
      · rename_i below
        simp only [List.cons_ne_nil, or_true, ↓reduceIte, FilePaths.walk] at inner
        cases inner
        rw [held] at below
        exact below (by simp)
    · intro parent
      rw [parent] at dots
      exact absurd dots (by decide)

theorem mem_of_mem_trim {char : Char} {text : List Char}
    (member : char ∈ RustText.trim RustText.isWhitespace text) : char ∈ text :=
  (List.dropWhile_sublist _).subset ((List.rdropWhile_prefix _ _).subset member)

theorem recordedPath_eq {tree : Tree} {text : String}
    (read : env.readToString tree currentConfigRecord = some text) :
    env.recordedPath tree =
      if RustText.trim RustText.isWhitespace text.toList = [] then none
      else some (FilePaths.join configDir (RustText.trim RustText.isWhitespace text.toList)) := by
  obtain ⟨location, bytes, there, held, _⟩ := located_of_read read
  have present : FilePaths.pathExists tree env.current currentConfigRecord = true := by
    rw [FilePaths.pathExists, there, Option.bind_some, held]
    rfl
  rw [WebEnv.recordedPath, if_pos present, read]
  rfl

/-- A recorded name leads to that file again exactly if nothing is trimmed off it. -/
theorem determineAutoStartFile_recorded {tree : Tree} {file : StartFile}
    (plain : Plain file.fileName.toList)
    (read : env.readToString tree currentConfigRecord = some file.fileName) :
    env.determineAutoStartFile tree none = some file ↔
      file.path = configPath file.fileName ∧
        RustText.trim RustText.isWhitespace file.fileName.toList = file.fileName.toList ∧
          FilePaths.pathExists tree env.current file.path = true := by
  have single : '/' ∉ RustText.trim RustText.isWhitespace file.fileName.toList :=
    fun slash => plain.single (mem_of_mem_trim slash)
  rw [WebEnv.determineAutoStartFile, WebEnv.autoStartPath, recordedPath_eq read]
  constructor
  · intro own
    obtain ⟨path, known, own⟩ := Option.bind_eq_some_iff.mp own
    obtain ⟨name, named, own⟩ := Option.bind_eq_some_iff.mp own
    split at known
    · cases known
    · rename_i nonempty
      cases known
      split at own
      · rename_i present
        have same : file = ⟨String.ofList name, _⟩ := (Option.some.inj own).symm
        have path : file.path = FilePaths.join configDir
            (RustText.trim RustText.isWhitespace file.fileName.toList) := by
          conv_lhs => rw [same]
        have text : file.fileName.toList = name := by
          conv_lhs => rw [same]
          exact String.toList_ofList
        rw [FilePaths.fileName_join plain_configDir single] at named
        split at named
        · cases named
        · split at named
          · -- a dot between blanks would be the directory, whose name has no blanks
            rename_i here
            have dot := here.resolve_left nonempty
            rw [text, ← Option.some.inj named] at dot
            exact absurd dot (by decide +kernel)
          · have trimmed := (Option.some.inj named).trans text.symm
            refine ⟨?_, trimmed, path ▸ present⟩
            rw [path, trimmed]
            rfl
      · cases own
  · rintro ⟨path, trimmed, present⟩
    rw [trimmed, if_neg plain.nonempty, Option.bind_some,
      FilePaths.fileName_join plain_configDir plain.single, if_neg plain.notParent,
      if_neg (not_or.mpr ⟨plain.nonempty, plain.notHere⟩), Option.bind_some]
    have same : FilePaths.join configDir file.fileName.toList = file.path := path.symm
    rw [same, if_pos present, String.ofList_toList]

/-- Wherever the record leads, it is to a file of the directory, or to the directory itself. -/
theorem determineAutoStartFile_inside {tree : Tree} {text : String} {again : StartFile}
    (single : '/' ∉ text.toList) (read : env.readToString tree currentConfigRecord = some text)
    (found : env.determineAutoStartFile tree none = some again) {location : Location}
    (there : FilePaths.locate tree env.current again.path = some location) :
    (∃ name, '/' ∉ name ∧ location = env.current ++ [configDir, name]) ∨
      tree location = some .directory := by
  have apart : '/' ∉ RustText.trim RustText.isWhitespace text.toList :=
    fun slash => single (mem_of_mem_trim slash)
  rw [WebEnv.determineAutoStartFile, WebEnv.autoStartPath, recordedPath_eq read] at found
  obtain ⟨path, known, found⟩ := Option.bind_eq_some_iff.mp found
  obtain ⟨name, named, found⟩ := Option.bind_eq_some_iff.mp found
  split at known
  · cases known
  · cases known
    split at found
    · cases found
      have notParent : RustText.trim RustText.isWhitespace text.toList ≠ ['.', '.'] := by
        intro parent
        rw [FilePaths.fileName_join plain_configDir apart, if_pos parent] at named
        cases named
      rcases FilePaths.locate_join plain_configDir apart notParent there with inside | ⟨_, here⟩
      · exact .inl ⟨_, apart, inside⟩
      · exact .inr here
    · cases found

/-- A configuration is saved and started, until the start is recorded. -/
def sampleStart (name : String) : List WebEvent :=
  [.saveConfig (some name) "no_tun = true" 0, .file 0 true 0 "", .file 0 true 99 "",
    .file 0 true 0 "", .startVnt name] ++ List.replicate 9 (.advance 0 true) ++
    [.file 1 true 0 "", .file 1 true 99 "", .file 1 true 0 ""]

def sampleStop : List WebEvent :=
  [.stopVnt, .advance 2 true, .advance 2 true, .file 2 true 0 "", .file 2 true 0 ""]

-- The blanks around a name are lost.
example : sampleService.determineAutoStartFile
    (sampleRun (sampleStart " home.toml")).1.files none = none := by
  decide +kernel

end VntClient
