import VntClient.Chronicle
import VntClient.ConfigLoaders
import VntClient.FilePaths
import VntClient.HttpService
import VntClient.UnicodeCase
import VntClient.WireMessage

/-!
The HTTP service with its files: the configurations in `vnt_config`, and the record of the
one that was started last, with which the next process begins. What a request does between
two awaits, or under one lock, is one step, and so is each call to the file system, which
may fail; start and stop requests go on in `HttpAppState`. A file is emptied when it is
opened for a write, which then puts its text there piece by piece, and is read at one moment.
A file name here is Unicode text.
-/

namespace VntClient
open FilePaths (Location Tree Change Plain)
open WireFormat.FieldCodec (utf8 ofUtf8 ofUtf8_utf8)

def configDir : List Char := "vnt_config".toList
def currentConfigRecord : List Char := "vnt_current_config.txt".toList

def isValidFileName (fileName : String) : Bool :=
  fileName != "" && !(RustText.splitOnce ['.', '.'] fileName.toList).isSome &&
    !fileName.toList.contains '/' && !fileName.toList.contains '\\'

def configPath (fileName : String) : List Char := FilePaths.join configDir fileName.toList

structure ConfigSummary where
  fileName : String
  configName : String
deriving DecidableEq

/-- What a start is asked for: the name that is recorded, and the file that is read. -/
structure StartFile where
  fileName : String
  path : List Char
deriving DecidableEq

/-- The parser gives a configuration and its `config_name`. -/
structure WebEnv (SocketAddr : Type) extends LoadEnv SocketAddr where
  parse : String → Except String (StartConfig × Option String)
  current : Location

/-- The texts that are written, each by a request of its own. -/
inductive WriteJob
  -- save_config
  | save (name config : String)
  -- start_vnt_network, for a start attempt that waits in a task of `HttpAppState`
  | record (attempt waiting : Nat) (file : StartFile)
  -- stop_vnt_handler, behind the stop
  | clear

namespace WriteJob

def path : WriteJob → List Char
  | save name _ => configPath name
  | record .. | clear => currentConfigRecord

def text : WriteJob → String
  | save _ config => config
  | record _ _ file => file.fileName
  | clear => ""

end WriteJob

/-- The requests for files that wait for the file system. -/
inductive FileTask
  | get (name : String)
  | checkExists (name : String)
  | remove (name : String)
  | list (found : List ConfigSummary)
  | write (job : WriteJob)
  -- The file is open; when its name is removed, what is written is no longer under it.
  | writing (job : WriteJob) (location : Location) (linked : Bool) (written : Nat)
  | finished

namespace FileTask

def unlink (location : Location) : FileTask → FileTask
  | writing job place linked written => writing job place (linked && place != location) written
  | task => task

def records (waiting : Nat) : FileTask → Bool
  | write (.record _ index _) | writing (.record _ index _) _ _ _ => index == waiting
  | _ => false

end FileTask

/-- Which file each start request asks for, by the number of its task, and each attempt
has been given, by its own. -/
structure WebState where
  http : HttpAppState
  files : Tree
  requested : Nat → Option StartFile
  started : List (Option StartFile)
  tasks : List FileTask

/-- The text is what the system says of a call that fails. -/
inductive WebEvent
  | saveConfig (fileName : Option String) (config : String) (now : Nat)
  | getConfig (fileName : String)
  | deleteConfig (fileName : String)
  | listConfigs (readable : Bool)
  | startVnt (fileName : String)
  | restartVnt (fileName : String)
  | stopVnt
  -- A call of `write` takes more than `count` bytes, or all that are left.
  | file (index : Nat) (ok : Bool) (count : Nat) (os : String)
  | entry (index : Nat) (name : Option (List Char)) (ok : Bool)
  | advance (index : Nat) (ok : Bool)
  | tasksEnd (group : Nat)
  | taskStops (group : Nat)

inductive Refusal
  | invalidToml (config message : String)
  | invalidName (name : String)
  | notFound (name : String)
  | inUse (name : String)
  | writeFailed (os : String)
  | readFailed (os : String)
  | deleteFailed (os : String)
deriving DecidableEq

def Refusal.message : Refusal → String
  | invalidToml _ message => s!"Invalid TOML format: {message}"
  | invalidName _ => "Invalid file name"
  | notFound _ => "Config file not found"
  | inUse _ => "此配置已被使用，不能删除"
  | writeFailed os => s!"Write config failed: {os}"
  | readFailed os => s!"Read file failed: {os}"
  | deleteFailed os => s!"Delete failed: {os}"

inductive WebNote (SocketAddr : Type)
  | changed (index : Nat) (change : Change)
  | saved (index : Nat) (name config : String)
  | got (name content : String)
  | deleted (name : String)
  | looked (index : Nat) (summary : ConfigSummary)
  | listed (index : Nat) (summaries : List ConfigSummary)
  | loaded (attempt : Nat) (file : StartFile) (content : String) (config : CoreConfig SocketAddr)
  | recorded (index attempt : Nat) (file : StartFile)
  | cleared (index : Nat)
  | network (attempt : Option Nat)
  | refused (refusal : Refusal)
deriving DecidableEq

namespace WebNote
variable {SocketAddr : Type}

def change : WebNote SocketAddr → Option Change
  | changed _ change => some change
  | _ => none

def place : WebNote SocketAddr → Option (Nat × Location)
  | changed index change => some (index, change.location)
  | _ => none

def stored : WebNote SocketAddr → Option (Option Nat)
  | network attempt => some attempt
  | _ => none

def looks (index : Nat) : WebNote SocketAddr → Option ConfigSummary
  | looked other summary => if other = index then some summary else none
  | _ => none

end WebNote

namespace WriteJob
variable {SocketAddr : Type}

def success (index : Nat) : WriteJob → WebNote SocketAddr
  | save name config => .saved index name config
  | record attempt _ file => .recorded index attempt file
  | clear => .cleared index

def failure (os : String) : WriteJob → List (WebNote SocketAddr)
  | save .. => [.refused (.writeFailed os)]
  | record .. | clear => []

end WriteJob

namespace WebEnv
variable {SocketAddr : Type} (env : WebEnv SocketAddr)

def configLocation (name : String) : Location := env.current ++ [configDir, name.toList]
def recordLocation : Location := env.current ++ [currentConfigRecord]

def jobLocation : WriteJob → Location
  | .save name _ => env.configLocation name
  | .record .. | .clear => env.recordLocation

def readToString (tree : Tree) (path : List Char) : Option String :=
  (FilePaths.read tree env.current path).bind ofUtf8

def load (tree : Tree) (file : StartFile) : Option (String × CoreConfig SocketAddr) :=
  (env.readToString tree file.path).bind fun content =>
    match env.parse content with
    | .error _ => none
    | .ok (cfg, _) =>
        match env.convertConfig cfg with
        | .ok config => some (content, config)
        | .err _ | .panic => none

def recordedPath (tree : Tree) : Option (List Char) :=
  if FilePaths.pathExists tree env.current currentConfigRecord then
    (env.readToString tree currentConfigRecord).bind fun content =>
      let name := RustText.trim RustText.isWhitespace content.toList
      if name = [] then none else some (FilePaths.join configDir name)
  else none

def autoStartPath (tree : Tree) : Option (List Char) → Option (List Char)
  | some startConfigFileName => some startConfigFileName
  | none => env.recordedPath tree

def determineAutoStartFile (tree : Tree) (startConfigFileName : Option (List Char)) :
    Option StartFile :=
  (env.autoStartPath tree startConfigFileName).bind fun path =>
    (FilePaths.fileName path).bind fun name =>
      if FilePaths.pathExists tree env.current path then some ⟨String.ofList name, path⟩ else none

end WebEnv

namespace WebState
variable {SocketAddr : Type} (env : WebEnv SocketAddr)

/-- The directory has been made. -/
def boot (tree : Tree) (startConfigFileName : Option (List Char)) : WebState :=
  match env.determineAutoStartFile tree startConfigFileName with
  | none => ⟨.new, tree, fun _ => none, [], []⟩
  | some file =>
      ⟨(HttpAppState.new.step (.arrive .start)).1, tree,
        Function.update (fun _ => none) 0 (some file), [], []⟩

def fileOf (state : WebState) (attempt : Nat) : Option StartFile :=
  (state.started[attempt - 1]?).join

def inUse (state : WebState) : Option String :=
  (state.http.vnt.bind state.fileOf).map StartFile.fileName

def addTask (state : WebState) (task : FileTask) : WebState :=
  { state with tasks := state.tasks ++ [task] }

def setTask (state : WebState) (index : Nat) (task : FileTask) : WebState :=
  { state with tasks := state.tasks.set index task }

/-- When a name is removed, a file that is open for a write loses it. -/
def unlink (state : WebState) (location : Location) : WebState :=
  { state with tasks := state.tasks.map (FileTask.unlink location) }

/-- The write is over: a start attempt that has waited for it goes on. -/
def endWrite (state : WebState) (index : Nat) (job : WriteJob) : WebState :=
  match job with
  | .record attempt waiting _ =>
      if state.http.tasks[waiting]? = some (.recordCurrent attempt) then
        { state.setTask index .finished with http := (state.http.step (.advance waiting true)).1 }
      else state.setTask index .finished
  | .save .. | .clear => state.setTask index .finished

def saveConfig (state : WebState) (fileName : Option String) (config : String) (now : Nat) :
    WebState × List (WebNote SocketAddr) :=
  match env.parse config with
  | .error message => (state, [.refused (.invalidToml config message)])
  | .ok _ =>
      let name := (fileName.filter fun name => name ≠ "").getD s!"{now}.toml"
      if isValidFileName name then (state.addTask (.write (.save name config)), [])
      else (state, [.refused (.invalidName name)])

/-- The part of the handlers before their first await. -/
def checkFile (state : WebState) (fileName : String) (next : WebState) :
    WebState × List (WebNote SocketAddr) :=
  if !isValidFileName fileName then (state, [.refused (.invalidName fileName)])
  else if FilePaths.pathExists state.files env.current (configPath fileName) then (next, [])
  else (state, [.refused (.notFound fileName)])

def deleteConfig (state : WebState) (fileName : String) : WebState × List (WebNote SocketAddr) :=
  if !isValidFileName fileName then (state, [.refused (.invalidName fileName)])
  else if state.inUse = some fileName then (state, [.refused (.inUse fileName)])
  else (state.addTask (.checkExists fileName), [])

def arrive (state : WebState) (request : HttpRequest) (file : Option StartFile) : WebState :=
  { state with
    http := (state.http.step (.arrive request)).1
    requested := Function.update state.requested state.http.tasks.length file }

def fileStep (state : WebState) (index : Nat) (ok : Bool) (count : Nat) (os : String) :
    FileTask → WebState × List (WebNote SocketAddr)
  | .get name =>
      (state.setTask index .finished,
        match (if ok then env.readToString state.files (configPath name) else none) with
        | some content => [.got name content]
        | none => [.refused (.readFailed os)])
  | .checkExists name =>
      if FilePaths.pathExists state.files env.current (configPath name) then
        (state.setTask index (.remove name), [])
      else (state.setTask index .finished, [.refused (.notFound name)])
  | .remove name =>
      match (if ok then FilePaths.remove state.files env.current (configPath name) else none) with
      | some change =>
          ((state.setTask index .finished).unlink change.location,
            [.changed index change, .deleted name])
      | none => (state.setTask index .finished, [.refused (.deleteFailed os)])
  | .write job =>
      match (if ok then FilePaths.create state.files env.current job.path else none) with
      | some location =>
          (state.setTask index (.writing job location true 0),
            [.changed index (.write location [])])
      | none => (state.endWrite index job, job.failure os)
  | .writing job location linked written =>
      let part := ((utf8 job.text).drop written).take (count + 1)
      if part = [] then (state.endWrite index job, [job.success index])
      else if ok then
        (state.setTask index (.writing job location linked (written + part.length)),
          if linked then [.changed index (.write location
            (FilePaths.patch (FilePaths.contentAt state.files location) written part))]
          else [])
      else (state.endWrite index job, job.failure os)
  | .list _ | .finished => (state, [])

def summary (state : WebState) (name : List Char) : Option ConfigSummary :=
  if FilePaths.extension name = some "toml".toList then
    (env.readToString state.files (FilePaths.join configDir name)).bind fun content =>
      match env.parse content with
      | .error _ => none
      | .ok (_, configName) =>
          some ⟨String.ofList name, configName.getD (String.ofList name)⟩
  else none

def sortDescending (summaries : List ConfigSummary) : List ConfigSummary :=
  summaries.insertionSort fun left right => right.fileName ≤ left.fileName

def entryStep (state : WebState) (index : Nat) (name : Option (List Char)) (ok : Bool) :
    FileTask → WebState × List (WebNote SocketAddr)
  | .list found =>
      match name with
      | none => (state.setTask index .finished, [.listed index (sortDescending found)])
      | some name =>
          match (if ok then state.summary env name else none) with
          | none => (state, [])
          | some summary =>
              (state.setTask index (.list (found ++ [summary])), [.looked index summary])
  | _ => (state, [])

def advance (state : WebState) (index : Nat) (ok : Bool) :
    HttpTask → WebState × List (WebNote SocketAddr)
  | .readConfig attempt =>
      match (state.fileOf attempt).bind fun file =>
          (if ok then env.load state.files file else none).map fun loaded => (file, loaded) with
      | none => ({ state with http := (state.http.step (.advance index false)).1 }, [])
      | some (file, content, config) =>
          ({ state with http := (state.http.step (.advance index true)).1 },
            [.loaded attempt file content config])
  | .start =>
      ({ state with
        http := (state.http.step (.advance index ok)).1
        started := if state.http.starting.isSome then state.started ++ [state.requested index]
          else state.started }, [])
  | .stopGroup =>
      ({ state with http := (state.http.step (.advance index ok)).1 }.addTask (.write .clear), [])
  | .recordCurrent attempt =>
      match state.fileOf attempt with
      | none => ({ state with http := (state.http.step (.advance index ok)).1 }, [])
      | some file =>
          -- It goes on when the write is over.
          if state.tasks.any (FileTask.records index) then (state, [])
          else (state.addTask (.write (.record attempt index file)), [])
  | _ => ({ state with http := (state.http.step (.advance index ok)).1 }, [])

def handle (state : WebState) : WebEvent → WebState × List (WebNote SocketAddr)
  | .saveConfig fileName config now => state.saveConfig env fileName config now
  | .getConfig fileName => state.checkFile env fileName (state.addTask (.get fileName))
  | .deleteConfig fileName => state.deleteConfig fileName
  | .listConfigs readable =>
      if readable then (state.addTask (.list []), [])
      else (state.addTask .finished, [.listed state.tasks.length []])
  | .startVnt fileName => state.checkFile env fileName
      (state.arrive .start (some ⟨fileName, configPath fileName⟩))
  | .restartVnt fileName => state.checkFile env fileName
      (state.arrive .restart (some ⟨fileName, configPath fileName⟩))
  | .stopVnt => (state.arrive .stop none, [])
  | .file index ok count os =>
      match state.tasks[index]? with
      | none => (state, [])
      | some task => state.fileStep env index ok count os task
  | .entry index name ok =>
      match state.tasks[index]? with
      | none => (state, [])
      | some task => state.entryStep env index name ok task
  | .advance index ok =>
      match state.http.tasks[index]? with
      | none => (state, [])
      | some task => state.advance env index ok task
  | .tasksEnd group => ({ state with http := (state.http.step (.tasksEnd group)).1 }, [])
  | .taskStops group => ({ state with http := (state.http.step (.taskStops group)).1 }, [])

/-- The files change as the notes say. -/
def step (state : WebState) (event : WebEvent) : WebState × List (WebNote SocketAddr) :=
  let (next, notes) := state.handle env event
  ({ next with files := FilePaths.replay state.files (notes.filterMap WebNote.change) },
    notes ++ if next.http.vnt = state.http.vnt then [] else [.network next.http.vnt])

end WebState

def FileTask.fileName : FileTask → Option String
  | .get name | .checkExists name | .remove name => some name
  | .list _ | .write _ | .writing .. | .finished => none

def FileTask.job : FileTask → Option WriteJob
  | .write job | .writing job _ _ _ => some job
  | .get _ | .checkExists _ | .remove _ | .list _ | .finished => none

namespace HttpTask

/-- The attempt whose file has been read and may come to be recorded. -/
def loaded : HttpTask → Option Nat
  | .createTask attempt | .createNetwork attempt | .storeHandler attempt | .register attempt
  | .startingToRunning attempt | .spawnMonitor attempt | .recordCurrent attempt
  | .dropRefused attempt | .cleanupRefused attempt => some attempt
  | _ => none

end HttpTask

namespace HttpAppState
variable {state middle : HttpAppState} {index : Nat} {task next : HttpTask}

/-- The attempts whose file has been read, and whose network may be up. -/
def Loaded (state : HttpAppState) (attempt : Nat) : Prop :=
  state.vnt = some attempt ∨ ∃ task ∈ state.tasks, task.loaded = some attempt

/-- The tasks are the same, and no handler has been stored. -/
def Still (middle state : HttpAppState) : Prop :=
  middle.tasks = state.tasks ∧ (middle.vnt = state.vnt ∨ middle.vnt = none)

theorem still (state : HttpAppState) : state.Still state := ⟨rfl, .inl rfl⟩

theorem still_starting (begins : state.starting = some middle) : middle.Still state := by
  unfold starting at begins
  split at begins
  · cases begins
  · split at begins
    · cases begins
    · cases begins
      exact ⟨rfl, .inl rfl⟩

theorem still_stopGroup (state : HttpAppState) : state.stopGroup.Still state :=
  ⟨state.stopGroup_tasks, .inl state.stopGroup_same.1⟩

theorem still_startingToRunning (state : HttpAppState) (attempt : Nat) :
    (state.startingToRunning attempt).Still state := by
  unfold startingToRunning
  split <;> exact ⟨rfl, .inl rfl⟩

theorem still_recordLogAndStopped (state : HttpAppState) (attempt : Nat) :
    (state.recordLogAndStopped attempt).Still state := by
  unfold recordLogAndStopped
  split <;> exact ⟨rfl, .inl rfl⟩

theorem still_startingToStopped (state : HttpAppState) (attempt : Nat) :
    (state.startingToStopped attempt).Still state := by
  unfold startingToStopped
  split
  · exact ⟨rfl, .inl rfl⟩
  · exact ⟨rfl, .inr rfl⟩

/-- A task that goes on keeps its attempt or drops it. -/
theorem Loaded.proceed {attempt : Nat} (later : (middle.proceed index next).Loaded attempt)
    (member : task ∈ state.tasks) (still : middle.Still state)
    (goes : next.loaded = none ∨ next.loaded = task.loaded) : state.Loaded attempt := by
  rcases later with stored | ⟨other, there, own⟩
  · rcases still.2 with same | none
    · exact .inl (same ▸ stored)
    · cases none.symm.trans stored
  · rw [HttpAppState.proceed, still.1] at there
    rcases List.mem_or_eq_of_mem_set there with old | rfl
    · exact .inr ⟨other, old, own⟩
    · rcases goes with none | same
      · cases none.symm.trans own
      · exact .inr ⟨task, member, same ▸ own⟩

/-- Only the reading of its file makes an attempt one that goes on to a network and a record. -/
theorem Loaded.before (ok : Bool) (found : state.tasks[index]? = some task)
    (unread : ∀ attempt, task ≠ .readConfig attempt) {attempt : Nat}
    (later : (state.advance index ok task).Loaded attempt) : state.Loaded attempt := by
  have member := List.mem_of_getElem? found
  cases task with
  | stop | restart =>
      rw [advance] at later
      split at later <;> exact later.proceed member state.still (.inl rfl)
  | stopGroup | restartStop => exact later.proceed member state.still_stopGroup (.inl rfl)
  | restartWait left =>
      cases left with
      | zero => exact later.proceed member state.still (.inl rfl)
      | succ left =>
          refine later.proceed member state.still ?_
          split
          · exact .inl rfl
          · split <;> exact .inl rfl
  | start =>
      rw [advance] at later
      cases begins : state.starting with
      | none =>
          rw [begins] at later
          exact later.proceed member state.still (.inl rfl)
      | some begun =>
          rw [begins] at later
          exact later.proceed member (still_starting begins) (.inl rfl)
  | readConfig number => exact absurd rfl (unread number)
  | createTask number =>
      rw [advance] at later
      split at later
      · exact later.proceed member state.still (.inl rfl)
      · exact later.proceed member ⟨rfl, .inl rfl⟩ (.inr rfl)
  | createNetwork number | register number =>
      rw [advance] at later
      split at later
      · exact later.proceed member state.still (.inr rfl)
      · exact later.proceed member state.still (.inl rfl)
  | storeHandler number =>
      rw [advance] at later
      split at later
      · exact later.proceed member state.still (.inl rfl)
      · -- the handler that is stored is the attempt's own
        rcases later with stored | others
        · exact .inr ⟨_, member, stored⟩
        · have kept : (state.proceed index (.register number)).Loaded attempt := .inr others
          exact kept.proceed member state.still (.inr rfl)
  | startingToRunning number =>
      exact later.proceed member (state.still_startingToRunning number) (.inr rfl)
  | spawnMonitor number =>
      rw [advance] at later
      split at later
      · exact later.proceed member state.still (.inr rfl)
      · rcases later with stored | ⟨other, there, own⟩
        · exact .inl stored
        · rcases List.mem_append.mp there with old | new
          · have kept : (state.proceed index (.recordCurrent number)).Loaded attempt :=
              .inr ⟨other, old, own⟩
            exact kept.proceed member state.still (.inr rfl)
          · rw [List.mem_singleton.mp new] at own
            cases own
  | recordCurrent number => exact later.proceed member state.still (.inl rfl)
  | dropRefused number => exact later.proceed member state.still_stopGroup (.inr rfl)
  | cleanupRefused number => exact later.proceed member ⟨rfl, .inr rfl⟩ (.inr rfl)
  | cleanupFailed number | cleanupMonitor number =>
      exact later.proceed member ⟨rfl, .inr rfl⟩ (.inl rfl)
  | dropFailed number => exact later.proceed member state.still_stopGroup (.inl rfl)
  | recordStopped number =>
      exact later.proceed member (state.still_recordLogAndStopped number) (.inl rfl)
  | dropOnError number =>
      exact later.proceed member (state.still_startingToStopped number) (.inl rfl)
  | monitor number =>
      rw [advance] at later
      split at later
      · exact later.proceed member state.still_stopGroup (.inl rfl)
      · exact later
  | finished => exact later

end HttpAppState

section Record
variable {SocketAddr : Type} (env : WebEnv SocketAddr) (initial : Tree) (auto : Option StartFile)

def treeAfter (notes : List (WebNote SocketAddr)) : Tree :=
  FilePaths.replay initial (notes.filterMap WebNote.change)

/-- The start attempt whose network is up. -/
def networkAfter (notes : List (WebNote SocketAddr)) : Option Nat :=
  (notes.filterMap WebNote.stored).getLast?.join

def places (notes : List (WebNote SocketAddr)) : List (Nat × Location) :=
  notes.filterMap WebNote.place

/-- Once the request has changed a file, nobody else changes the one at the location. -/
def Alone (index : Nat) (location : Location) (notes : List (WebNote SocketAddr)) : Prop :=
  (places notes).Pairwise fun earlier later =>
    earlier.1 = index → later.2 = location → later.1 = index

instance (index : Nat) (location : Location) (notes : List (WebNote SocketAddr)) :
    Decidable (Alone index location notes) := inferInstanceAs (Decidable (List.Pairwise _ _))

/-- A file that a request may name, or the one the service begins with. -/
def Asked (file : StartFile) : Prop :=
  auto = some file ∨
    isValidFileName file.fileName = true ∧ file.path = configPath file.fileName

namespace WebNote

/-- The files that may be written, and what to: configurations that parse, and the record,
which is emptied or gets the name of a file that has been loaded. -/
def MayHold (before : List (WebNote SocketAddr)) (location : Location) (text : String) : Prop :=
  (∃ name parsed, isValidFileName name = true ∧ location = env.configLocation name ∧
    env.parse text = .ok parsed) ∨
  location = env.recordLocation ∧ (text = "" ∨ ∃ attempt file content config,
    .loaded attempt file content config ∈ before ∧ text = file.fileName)

/-- A file is emptied or gets a piece of such a text at its place, or is removed. -/
def Allowed (before : List (WebNote SocketAddr)) : Change → Prop
  | .write location content => ∃ text, MayHold env before location text ∧ (content = [] ∨
      ∃ offset count, content = FilePaths.patch
        (FilePaths.contentAt (treeAfter initial before) location) offset
        (((utf8 text).drop offset).take count))
  | .remove location => ∃ name, isValidFileName name = true ∧ location = env.configLocation name

/-- A refusal that speaks of a request or a file is right. -/
def Justified (before : List (WebNote SocketAddr)) : Refusal → Prop
  | .invalidToml config message => env.parse config = .error message
  | .invalidName name => isValidFileName name = false
  | .notFound name => isValidFileName name = true ∧
      FilePaths.pathExists (treeAfter initial before) env.current (configPath name) = false
  | .inUse name => isValidFileName name = true ∧ ∃ attempt file content config,
      networkAfter before = some attempt ∧ .loaded attempt file content config ∈ before ∧
        file.fileName = name
  | .writeFailed _ | .readFailed _ | .deleteFailed _ => True

/-- What a note says of the files as the notes before it have left them. -/
def Fits (before : List (WebNote SocketAddr)) : WebNote SocketAddr → Prop
  | .changed _ change =>
      treeAfter initial before change.location ≠ some .directory ∧
        Allowed env initial before change
  | .saved index name config =>
      isValidFileName name = true ∧ (∃ parsed, env.parse config = .ok parsed) ∧
        (Alone index (env.configLocation name) before →
          env.readToString (treeAfter initial before) (configPath name) = some config)
  | .got name content =>
      isValidFileName name = true ∧
        env.readToString (treeAfter initial before) (configPath name) = some content
  | .deleted name =>
      isValidFileName name = true ∧
        FilePaths.pathExists (treeAfter initial before) env.current (configPath name) = false
  | .looked _ summary => ∃ content config configName,
      env.readToString (treeAfter initial before) (configPath summary.fileName) = some content ∧
        env.parse content = .ok (config, configName) ∧
          summary.configName = configName.getD summary.fileName
  | .listed index summaries =>
      summaries.Perm (before.filterMap (looks index)) ∧
        summaries.Pairwise fun left right => right.fileName ≤ left.fileName
  | .loaded _ file content config =>
      Asked auto file ∧ env.load (treeAfter initial before) file = some (content, config)
  | .recorded index attempt file =>
      (∃ content config, .loaded attempt file content config ∈ before) ∧
        (Alone index env.recordLocation before →
          env.readToString (treeAfter initial before) currentConfigRecord = some file.fileName)
  | .cleared index => Alone index env.recordLocation before →
      env.readToString (treeAfter initial before) currentConfigRecord = some ""
  | .network stored => ∀ attempt, stored = some attempt → ∃ file content config,
      .loaded attempt file content config ∈ before
  | .refused refusal => Justified env initial before refusal

def Quiet (note : WebNote SocketAddr) : Prop := ∀ index, note.looks index = none

end WebNote

/-- The text of a write is one that may be written. -/
def WriteJob.Valid (notes : List (WebNote SocketAddr)) : WriteJob → Prop
  | .save name config => isValidFileName name = true ∧ ∃ parsed, env.parse config = .ok parsed
  | .record attempt _ file => ∃ content config, .loaded attempt file content config ∈ notes
  | .clear => True

/-- A file that is open for a write holds what has been written of the text, if nobody else
has changed it. -/
structure Held (notes : List (WebNote SocketAddr)) (index : Nat) (job : WriteJob)
    (location : Location) (linked : Bool) (written : Nat) : Prop where
  there : FilePaths.locate initial env.current job.path = some location
  clear : initial location ≠ some .directory
  within : written ≤ (utf8 job.text).length
  begun : (index, location) ∈ places notes
  kept : Alone index location notes → linked = true ∧
    treeAfter initial notes location = some (.file ((utf8 job.text).take written))

namespace WebState

/-- The requests under way and what has been noted of them. -/
structure Core (state : WebState) (notes : List (WebNote SocketAddr)) : Prop where
  requested : ∀ index file, state.requested index = some file → Asked auto file
  started : ∀ file, some file ∈ state.started → Asked auto file
  loaded : ∀ attempt, state.http.Loaded attempt → ∃ file content config,
    state.fileOf attempt = some file ∧ .loaded attempt file content config ∈ notes
  valid : ∀ task ∈ state.tasks, ∀ name, task.fileName = some name → isValidFileName name = true
  jobs : ∀ task ∈ state.tasks, ∀ job, task.job = some job → job.Valid env notes
  held : ∀ index job location linked written,
    state.tasks[index]? = some (.writing job location linked written) →
      Held env initial notes index job location linked written
  listing : ∀ index found, state.tasks[index]? = some (.list found) →
    found = notes.filterMap (WebNote.looks index)
  fresh : ∀ index, state.tasks.length ≤ index → notes.filterMap (WebNote.looks index) = []

end WebState
end Record

section Kept
variable {SocketAddr : Type} {env : WebEnv SocketAddr} {initial : Tree} {auto : Option StartFile}
  {notes : List (WebNote SocketAddr)} {state : WebState}

open WebNote WebState

@[simp] theorem treeAfter_append (notes more : List (WebNote SocketAddr)) :
    treeAfter initial (notes ++ more) =
      FilePaths.replay (treeAfter initial notes) (more.filterMap WebNote.change) := by
  simp [treeAfter]

@[simp] theorem places_append (notes more : List (WebNote SocketAddr)) :
    places (notes ++ more) = places notes ++ places more := List.filterMap_append

theorem mem_changes {change : Change} :
    change ∈ notes.filterMap WebNote.change ↔ ∃ index, .changed index change ∈ notes := by
  rw [List.mem_filterMap]
  constructor
  · rintro ⟨note, member, same⟩
    cases note with
    | changed index other =>
        cases same
        exact ⟨index, member⟩
    | _ => cases same
  · exact fun ⟨index, member⟩ => ⟨_, member, rfl⟩

theorem mem_places {index : Nat} {change : Change} (noted : .changed index change ∈ notes) :
    (index, change.location) ∈ places notes := List.mem_filterMap.mpr ⟨_, noted, rfl⟩

theorem treeAfter_apart {more : List (WebNote SocketAddr)} {location : Location}
    (apart : ∀ place ∈ places more, place.2 ≠ location) :
    treeAfter initial (notes ++ more) location = treeAfter initial notes location := by
  rw [treeAfter_append]
  refine FilePaths.replay_untouched fun change member => ?_
  obtain ⟨index, noted⟩ := mem_changes.mp member
  exact apart _ (mem_places noted)

theorem looks_quiet {more : List (WebNote SocketAddr)} (quiet : ∀ note ∈ more, note.Quiet)
    (index : Nat) : (notes ++ more).filterMap (looks index) = notes.filterMap (looks index) := by
  rw [List.filterMap_append,
    List.filterMap_eq_nil_iff.mpr fun note member => quiet note member index, List.append_nil]

theorem WriteJob.Valid.later {job : WriteJob} (valid : job.Valid env notes)
    (more : List (WebNote SocketAddr)) : job.Valid env (notes ++ more) := by
  cases job with
  | save | clear => exact valid
  | record attempt waiting file =>
      obtain ⟨content, config, noted⟩ := valid
      exact ⟨content, config, List.mem_append_left _ noted⟩

/-- Whoever else writes there, what is known of the file holds only without him. -/
theorem Held.later {index : Nat} {job : WriteJob} {location : Location} {linked : Bool}
    {written : Nat} (held : Held env initial notes index job location linked written)
    {more : List (WebNote SocketAddr)} (others : ∀ place ∈ places more, place.1 ≠ index) :
    Held env initial (notes ++ more) index job location linked written := by
  refine ⟨held.there, held.clear, held.within, ?_, fun alone => ?_⟩
  · rw [places_append]
    exact List.mem_append_left _ held.begun
  · rw [Alone, places_append] at alone
    obtain ⟨earlier, _, cross⟩ := List.pairwise_append.mp alone
    rw [treeAfter_apart fun place member same =>
      others place member (cross _ held.begun place member rfl same)]
    exact held.kept earlier

/-- Where nothing is listed, and nobody changes a file but a request that is over, what is known
of the requests stays known. -/
theorem WebState.Core.later (core : Core env initial auto state notes)
    {more : List (WebNote SocketAddr)} (quiet : ∀ note ∈ more, note.Quiet) (unchanged : places more = []) :
    Core env initial auto state (notes ++ more) := by
  refine ⟨core.requested, core.started, ?_, core.valid, ?_, ?_, ?_, ?_⟩
  · intro attempt loaded
    obtain ⟨file, content, config, known, noted⟩ := core.loaded attempt loaded
    exact ⟨file, content, config, known, List.mem_append_left _ noted⟩
  · exact fun task member job own => (core.jobs task member job own).later more
  · intro index job location linked written there
    exact (core.held index job location linked written there).later (by simp [unchanged])
  · intro index found there
    rw [looks_quiet quiet]
    exact core.listing index found there
  · intro index past
    rw [looks_quiet quiet]
    exact core.fresh index past

theorem WebState.Core.addTask (core : Core env initial auto state notes) {task : FileTask}
    (valid : ∀ name, task.fileName = some name → isValidFileName name = true)
    (jobs : ∀ job, task.job = some job → job.Valid env notes)
    (unopened : ∀ job location linked written, task ≠ .writing job location linked written)
    (listing : ∀ found, task = .list found → found = []) :
    Core env initial auto (state.addTask task) notes := by
  refine ⟨core.requested, core.started, core.loaded, ?_, ?_, ?_, ?_, ?_⟩
  · intro other member name named
    rcases List.mem_append.mp member with old | new
    · exact core.valid other old name named
    · rw [List.mem_singleton.mp new] at named
      exact valid name named
  · intro other member job own
    rcases List.mem_append.mp member with old | new
    · exact core.jobs other old job own
    · rw [List.mem_singleton.mp new] at own
      exact jobs job own
  · intro index job location linked written there
    rw [WebState.addTask, List.getElem?_append] at there
    split at there
    · exact core.held index job location linked written there
    · exact absurd (List.mem_singleton.mp (List.mem_of_getElem? there)).symm
        (unopened job location linked written)
  · intro index found there
    rw [WebState.addTask, List.getElem?_append] at there
    split at there
    · exact core.listing index found there
    · rename_i past
      have own := List.mem_singleton.mp (List.mem_of_getElem? there)
      rw [listing found own.symm, core.fresh index (Nat.not_lt.mp past)]
  · intro index past
    refine core.fresh index ?_
    simp only [WebState.addTask, List.length_append, List.length_singleton] at past
    omega

/-- The next section of a request, with what it alone lists and changes. -/
theorem WebState.Core.setTask (core : Core env initial auto state notes) {index : Nat}
    (inside : index < state.tasks.length) {task : FileTask} {more : List (WebNote SocketAddr)}
    (valid : ∀ name, task.fileName = some name → isValidFileName name = true)
    (jobs : ∀ job, task.job = some job → job.Valid env notes)
    (held : ∀ job location linked written, task = .writing job location linked written →
      Held env initial (notes ++ more) index job location linked written)
    (mine : ∀ place ∈ places more, place.1 = index)
    (apart : ∀ other, other ≠ index → more.filterMap (looks other) = [])
    (listing : ∀ found, task = .list found → found = (notes ++ more).filterMap (looks index)) :
    Core env initial auto (state.setTask index task) (notes ++ more) := by
  have others : ∀ other, other ≠ index →
      (notes ++ more).filterMap (looks other) = notes.filterMap (looks other) := by
    intro other differs
    rw [List.filterMap_append, apart other differs, List.append_nil]
  refine ⟨core.requested, core.started, ?_, ?_, ?_, ?_, ?_, ?_⟩
  · intro attempt loaded
    obtain ⟨file, content, config, known, noted⟩ := core.loaded attempt loaded
    exact ⟨file, content, config, known, List.mem_append_left _ noted⟩
  · intro other member name named
    rcases List.mem_or_eq_of_mem_set member with old | rfl
    · exact core.valid other old name named
    · exact valid name named
  · intro other member job own
    rcases List.mem_or_eq_of_mem_set member with old | rfl
    · exact (core.jobs other old job own).later more
    · exact (jobs job own).later more
  · intro other job location linked written there
    by_cases same : other = index
    · subst same
      rw [WebState.setTask, List.getElem?_set_self inside] at there
      exact held job location linked written (Option.some.inj there)
    · rw [WebState.setTask, List.getElem?_set_ne (Ne.symm same)] at there
      exact (core.held other job location linked written there).later
        fun place member => mine place member ▸ Ne.symm same
  · intro other found there
    by_cases same : other = index
    · subst same
      rw [WebState.setTask, List.getElem?_set_self inside] at there
      exact listing found (Option.some.inj there)
    · rw [WebState.setTask, List.getElem?_set_ne (Ne.symm same)] at there
      rw [others other same]
      exact core.listing other found there
  · intro other past
    have past : state.tasks.length ≤ other := by simpa [WebState.setTask] using past
    rw [others other (by omega)]
    exact core.fresh other past

/-- The same for a section that lists nothing, and leaves the request with no open file. -/
theorem WebState.Core.proceed (core : Core env initial auto state notes) {index : Nat}
    (inside : index < state.tasks.length) {task : FileTask} {more : List (WebNote SocketAddr)}
    (valid : ∀ name, task.fileName = some name → isValidFileName name = true)
    (idle : task.job = none) (unlisted : ∀ found, task ≠ .list found)
    (quiet : ∀ note ∈ more, note.Quiet) (mine : ∀ place ∈ places more, place.1 = index) :
    Core env initial auto (state.setTask index task) (notes ++ more) := by
  refine core.setTask inside valid ?_ ?_ mine ?_ fun found own => absurd own (unlisted found)
  · intro job own
    rw [idle] at own
    cases own
  · rintro job location linked written rfl
    cases idle
  · exact fun other _ => List.filterMap_eq_nil_iff.mpr fun note member => quiet note member other

theorem WebState.Core.silent (core : Core env initial auto state notes) {index : Nat}
    (inside : index < state.tasks.length) {task : FileTask}
    (valid : ∀ name, task.fileName = some name → isValidFileName name = true)
    (idle : task.job = none) (unlisted : ∀ found, task ≠ .list found) :
    Core env initial auto (state.setTask index task) notes := by
  have moved : Core env initial auto (state.setTask index task)
      (notes ++ ([] : List (WebNote SocketAddr))) :=
    core.proceed inside valid idle unlisted (by simp) (by simp [places])
  rwa [List.append_nil] at moved

theorem WebState.Core.finish (core : Core env initial auto state notes) {index : Nat}
    (inside : index < state.tasks.length) :
    Core env initial auto (state.setTask index .finished) notes :=
  core.silent inside nofun rfl nofun

/-- A file that has lost its name is no longer under it. -/
theorem WebState.Core.unlink (core : Core env initial auto state notes) {location : Location}
    (gone : treeAfter initial notes location = none) :
    Core env initial auto (state.unlink location) notes := by
  have same : ∀ task : FileTask, (task.unlink location).fileName = task.fileName ∧
      (task.unlink location).job = task.job := by
    intro task
    cases task <;> exact ⟨rfl, rfl⟩
  refine ⟨core.requested, core.started, core.loaded, ?_, ?_, ?_, ?_, ?_⟩
  · intro task member name named
    obtain ⟨old, before, rfl⟩ := List.mem_map.mp member
    exact core.valid old before name ((same old).1 ▸ named)
  · intro task member job own
    obtain ⟨old, before, rfl⟩ := List.mem_map.mp member
    exact core.jobs old before job ((same old).2 ▸ own)
  · intro index job place linked written there
    rw [WebState.unlink, List.getElem?_map] at there
    obtain ⟨old, before, shape⟩ := Option.map_eq_some_iff.mp there
    cases old with
    | writing _ _ was _ =>
        cases shape
        have held := core.held _ _ _ _ _ before
        refine ⟨held.there, held.clear, held.within, held.begun, fun alone => ?_⟩
        obtain ⟨linked, kept⟩ := held.kept alone
        refine ⟨?_, kept⟩
        rw [linked, Bool.true_and, bne_iff_ne]
        rintro rfl
        rw [gone] at kept
        cases kept
    | _ => cases shape
  · intro index found there
    rw [WebState.unlink, List.getElem?_map] at there
    obtain ⟨old, before, shape⟩ := Option.map_eq_some_iff.mp there
    cases old with
    | list =>
        cases shape
        exact core.listing index _ before
    | _ => cases shape
  · intro index past
    exact core.fresh index (by simpa [WebState.unlink] using past)

theorem WebState.Core.http (core : Core env initial auto state notes) {http : HttpAppState}
    (loaded : ∀ attempt, http.Loaded attempt → state.http.Loaded attempt) :
    Core env initial auto { state with http } notes :=
  ⟨core.requested, core.started, fun attempt later => core.loaded attempt (loaded attempt later),
    core.valid, core.jobs, core.held, core.listing, core.fresh⟩

variable (env initial auto) in
/-- A section of a request leaves what is known of the requests, and its notes fit. -/
def Kept (notes : List (WebNote SocketAddr)) (result : WebState × List (WebNote SocketAddr)) :
    Prop :=
  Core env initial auto result.1 (notes ++ result.2) ∧
    Chronicle (Fits env initial auto) (notes ++ result.2)

theorem Kept.silent (core : Core env initial auto state notes)
    (chronicle : Chronicle (Fits env initial auto) notes) :
    Kept env initial auto notes (state, []) := by
  rw [Kept, List.append_nil]
  exact ⟨core, chronicle⟩

theorem Kept.note {note : WebNote SocketAddr} (core : Core env initial auto state notes)
    (chronicle : Chronicle (Fits env initial auto) notes) (quiet : note.Quiet)
    (unchanged : note.place = none) (fits : Fits env initial auto notes note) :
    Kept env initial auto notes (state, [note]) := by
  refine ⟨core.later (fun _ member => List.mem_singleton.mp member ▸ quiet) ?_, chronicle.add fits⟩
  rw [places, List.filterMap_cons, unchanged]
  rfl

theorem Kept.refused (core : Core env initial auto state notes)
    (chronicle : Chronicle (Fits env initial auto) notes) {refusal : Refusal}
    (justified : Justified env initial notes refusal) :
    Kept env initial auto notes (state, [.refused refusal]) :=
  .note core chronicle (fun _ => rfl) rfl justified

/-- A valid name leads to a file of the directory, or to the directory itself. -/
theorem configPath_located {tree : Tree} {name : String} (valid : isValidFileName name = true)
    {location : Location}
    (there : FilePaths.locate tree env.current (configPath name) = some location) :
    location = env.configLocation name ∨ tree location = some .directory := by
  simp only [isValidFileName, Bool.and_eq_true, Bool.not_eq_true', List.contains_eq_mem,
    decide_eq_false_iff_not] at valid
  obtain ⟨⟨⟨_, dots⟩, single⟩, _⟩ := valid
  have notParent : name.toList ≠ ['.', '.'] := by
    intro parent
    rw [parent] at dots
    exact absurd dots (by decide)
  rcases FilePaths.locate_join (by decide +kernel) single notParent there with inside | ⟨_, here⟩
  · exact .inl inside
  · exact .inr here

theorem record_located {tree : Tree} {location : Location}
    (there : FilePaths.locate tree env.current currentConfigRecord = some location) :
    location = env.recordLocation := by
  rw [FilePaths.locate_plain (by decide +kernel)] at there
  split at there
  · cases there
    rfl
  · cases there

/-- No directory comes or goes. -/
theorem directories_kept (chronicle : Chronicle (Fits env initial auto) notes) :
    FilePaths.SameDirectories (treeAfter initial notes) initial := by
  -- From the last note: what it may do depends on all before it.
  induction notes using List.reverseRecOn with
  | nil => exact fun _ => Iff.rfl
  | append_singleton notes note ih =>
      obtain ⟨before, fits⟩ := (Chronicle.concat_iff notes note).mp chronicle
      have earlier := ih before
      intro here
      rw [treeAfter_append]
      cases note with
      | changed index change =>
          have kept : FilePaths.SameDirectories (change.apply (treeAfter initial notes))
              (treeAfter initial notes) := FilePaths.Change.sameDirectories fits.1
          exact (kept here).trans (earlier here)
      | _ => exact earlier here

theorem jobLocation_eq {tree : Tree} {job : WriteJob} (valid : job.Valid env notes)
    {location : Location} (there : FilePaths.locate tree env.current job.path = some location)
    (clear : tree location ≠ some .directory) : location = env.jobLocation job := by
  cases job with
  | save name config => exact (configPath_located valid.1 there).resolve_right clear
  | record | clear => exact record_located there

theorem mayHold_job {job : WriteJob} (valid : job.Valid env notes) :
    MayHold env notes (env.jobLocation job) job.text := by
  cases job with
  | save name config =>
      obtain ⟨named, parsed, read⟩ := valid
      exact .inl ⟨name, parsed, named, rfl, read⟩
  | record attempt waiting file =>
      obtain ⟨content, config, noted⟩ := valid
      exact .inr ⟨rfl, .inr ⟨attempt, file, content, config, noted, rfl⟩⟩
  | clear => exact .inr ⟨rfl, .inl rfl⟩

theorem saveConfig_kept (core : Core env initial auto state notes)
    (chronicle : Chronicle (Fits env initial auto) notes) (fileName : Option String)
    (config : String) (now : Nat) :
    Kept env initial auto notes (state.saveConfig env fileName config now) := by
  rw [saveConfig]
  cases parsed : env.parse config with
  | error message => exact .refused core chronicle parsed
  | ok read =>
      simp only
      split
      · rename_i valid
        refine .silent (core.addTask nofun ?_ nofun nofun) chronicle
        rintro job ⟨⟩
        exact ⟨valid, read, parsed⟩
      · rename_i invalid
        exact .refused core chronicle (by simpa [Justified] using invalid)

theorem checkFile_kept (files : state.files = treeAfter initial notes)
    (core : Core env initial auto state notes)
    (chronicle : Chronicle (Fits env initial auto) notes) {fileName : String} {next : WebState}
    (goes : isValidFileName fileName = true → Core env initial auto next notes) :
    Kept env initial auto notes (state.checkFile env fileName next) := by
  rw [checkFile]
  split
  · rename_i invalid
    exact .refused core chronicle (by simpa [Justified] using invalid)
  · rename_i valid
    have valid : isValidFileName fileName = true := by simpa using valid
    split
    · exact .silent (goes valid) chronicle
    · rename_i absent
      exact .refused core chronicle ⟨valid, files ▸ Bool.eq_false_iff.mpr absent⟩

theorem deleteConfig_kept (network : networkAfter notes = state.http.vnt)
    (core : Core env initial auto state notes)
    (chronicle : Chronicle (Fits env initial auto) notes) (fileName : String) :
    Kept env initial auto notes (state.deleteConfig fileName) := by
  rw [deleteConfig]
  split
  · rename_i invalid
    exact .refused core chronicle (by simpa [Justified] using invalid)
  · rename_i valid
    have valid : isValidFileName fileName = true := by simpa using valid
    split
    · rename_i used
      obtain ⟨file, own, named⟩ := Option.map_eq_some_iff.mp used
      obtain ⟨attempt, stored, known⟩ := Option.bind_eq_some_iff.mp own
      obtain ⟨loaded, content, config, same, noted⟩ := core.loaded attempt (.inl stored)
      rw [known] at same
      cases same
      exact .refused core chronicle
        ⟨valid, attempt, file, content, config, network.trans stored, noted, named⟩
    · refine .silent (core.addTask ?_ nofun nofun nofun) chronicle
      rintro name ⟨⟩
      exact valid

theorem arrive_kept (core : Core env initial auto state notes) (request : HttpRequest)
    {file : Option StartFile} (asked : ∀ named, file = some named → Asked auto named) :
    Core env initial auto (state.arrive request file) notes := by
  have http : Core env initial auto
      { state with http := (state.http.step (.arrive request)).1 } notes := by
    apply core.http
    rintro attempt (stored | ⟨task, member, own⟩)
    · exact .inl stored
    · rcases List.mem_append.mp member with old | new
      · exact .inr ⟨task, old, own⟩
      · rw [List.mem_singleton.mp new] at own
        cases request with
        | start | stop | restart => cases own
  refine ⟨?_, http.started, http.loaded, http.valid, http.jobs, http.held, http.listing,
    http.fresh⟩
  intro index named known
  simp only [arrive, Function.update_apply] at known
  split at known
  · exact asked named known
  · exact core.requested index named known

theorem step_advance {http : HttpAppState} {index : Nat} {task : HttpTask}
    (found : http.tasks[index]? = some task) (ok : Bool) :
    (http.step (.advance index ok)).1 = http.advance index ok task := by
  simp only [HttpAppState.step, found]

theorem Core.advance (core : Core env initial auto state notes) {index : Nat} {task : HttpTask}
    (found : state.http.tasks[index]? = some task) (unread : ∀ attempt, task ≠ .readConfig attempt)
    (ok : Bool) :
    Core env initial auto { state with http := (state.http.step (.advance index ok)).1 } notes := by
  apply core.http
  intro attempt later
  rw [step_advance found] at later
  exact later.before ok found unread

theorem Core.endWrite (core : Core env initial auto state notes) {index : Nat}
    (inside : index < state.tasks.length) (job : WriteJob) :
    Core env initial auto (state.endWrite index job) notes := by
  have finished := core.finish inside
  cases job with
  | save | clear => exact finished
  | record attempt waiting file =>
      rw [WebState.endWrite]
      split
      · rename_i found
        have moved := Core.advance finished found nofun true
        exact moved
      · exact finished

theorem failed_kept (core : Core env initial auto state notes)
    (chronicle : Chronicle (Fits env initial auto) notes) (job : WriteJob) (os : String) :
    Kept env initial auto notes (state, job.failure os) := by
  cases job with
  | save => exact .refused core chronicle trivial
  | record | clear => exact .silent core chronicle

theorem success_kept {next : WebState} (core : Core env initial auto next notes)
    (chronicle : Chronicle (Fits env initial auto) notes) {index : Nat} {job : WriteJob}
    (valid : job.Valid env notes) {location : Location} {linked : Bool} {written : Nat}
    (held : Held env initial notes index job location linked written)
    (all : (utf8 job.text).length ≤ written) :
    Kept env initial auto notes (next, [job.success index]) := by
  have own : location = env.jobLocation job := jobLocation_eq valid held.there held.clear
  have read : Alone index (env.jobLocation job) notes →
      env.readToString (treeAfter initial notes) job.path = some job.text := by
    intro alone
    obtain ⟨_, content⟩ := held.kept (own ▸ alone)
    rw [WebEnv.readToString, FilePaths.read, FilePaths.locate_congr (directories_kept chronicle),
      held.there, Option.bind_some, content, List.take_of_length_le all]
    exact ofUtf8_utf8 job.text
  cases job with
  | save name config =>
      exact .note core chronicle (fun _ => rfl) rfl ⟨valid.1, valid.2, read⟩
  | record attempt waiting file => exact .note core chronicle (fun _ => rfl) rfl ⟨valid, read⟩
  | clear => exact .note core chronicle (fun _ => rfl) rfl read

theorem remove_kept (files : state.files = treeAfter initial notes)
    (core : Core env initial auto state notes)
    (chronicle : Chronicle (Fits env initial auto) notes) {index : Nat} {name : String}
    (inside : index < state.tasks.length) (valid : isValidFileName name = true) {change : Change}
    (removed : FilePaths.remove state.files env.current (configPath name) = some change) :
    Kept env initial auto notes ((state.setTask index .finished).unlink change.location,
      [.changed index change, .deleted name]) := by
  obtain ⟨location, content, there, held, rfl⟩ := FilePaths.remove_eq_some.mp removed
  have clear : state.files location ≠ some .directory := by simp [held]
  have changed : Fits env initial auto notes (.changed index (.remove location)) :=
    ⟨files ▸ clear, name, valid, (configPath_located valid there).resolve_right clear⟩
  have gone : Fits env initial auto (notes ++ [.changed index (.remove location)])
      (.deleted name) := by
    refine ⟨valid, ?_⟩
    rw [treeAfter_append, ← files]
    exact FilePaths.pathExists_removed there clear
  have finished : Core env initial auto (state.setTask index .finished)
      (notes ++ [.changed index (.remove location)]) :=
    core.proceed inside nofun rfl nofun (by simp [Quiet, looks]) (by simp [places, place])
  have empty :
      treeAfter initial (notes ++ [.changed index (.remove location)]) location = none := by
    rw [treeAfter_append]
    exact Function.update_self _ _ _
  have later : Core env initial auto ((state.setTask index .finished).unlink location)
      ((notes ++ [.changed index (.remove location)]) ++ [.deleted name]) :=
    (finished.unlink empty).later (by simp [Quiet, looks]) rfl
  rw [List.append_assoc] at later
  exact ⟨later, chronicle.add_two changed gone⟩

theorem opened_kept (files : state.files = treeAfter initial notes)
    (core : Core env initial auto state notes)
    (chronicle : Chronicle (Fits env initial auto) notes) {index : Nat} {job : WriteJob}
    (inside : index < state.tasks.length) (valid : job.Valid env notes) {location : Location}
    (created : FilePaths.create state.files env.current job.path = some location) :
    Kept env initial auto notes (state.setTask index (.writing job location true 0),
      [.changed index (.write location [])]) := by
  obtain ⟨there, clear⟩ := FilePaths.create_eq_some.mp created
  have same := directories_kept chronicle
  rw [files] at there clear
  have changed : Fits env initial auto notes (.changed index (.write location [])) :=
    ⟨clear, job.text, jobLocation_eq valid there clear ▸ mayHold_job valid, .inl rfl⟩
  refine ⟨core.setTask inside nofun ?_ ?_ ?_ ?_ nofun, chronicle.add changed⟩
  · rintro other ⟨⟩
    exact valid
  · rintro other place linked written ⟨⟩
    refine ⟨FilePaths.locate_congr same _ ▸ there, fun directory => clear ((same _).mpr directory),
      Nat.zero_le _, ?_, fun _ => ⟨rfl, ?_⟩⟩
    · rw [places_append]
      exact List.mem_append_right _ (List.mem_singleton.mpr rfl)
    · rw [treeAfter_append]
      simp [FilePaths.replay, WebNote.change, Change.apply]
  · simp [places, place]
  · simp [looks]

/-- The next piece of a text goes behind what has been written of it. -/
theorem written_kept (files : state.files = treeAfter initial notes)
    (core : Core env initial auto state notes)
    (chronicle : Chronicle (Fits env initial auto) notes) {index : Nat} {job : WriteJob}
    {location : Location} {linked : Bool} {written : Nat}
    (found : state.tasks[index]? = some (.writing job location linked written)) (count : Nat) :
    let part := ((utf8 job.text).drop written).take (count + 1)
    Kept env initial auto notes
      (state.setTask index (.writing job location linked (written + part.length)),
        if linked then [.changed index (.write location
          (FilePaths.patch (FilePaths.contentAt state.files location) written part))]
        else []) := by
  intro part
  have inside := (List.getElem?_eq_some_iff.mp found).1
  have valid := core.jobs _ (List.mem_of_getElem? found) job rfl
  have held := core.held index job location linked written found
  have clear : treeAfter initial notes location ≠ some .directory :=
    fun directory => held.clear ((directories_kept chronicle _).mp directory)
  have within : written + part.length ≤ (utf8 job.text).length := by
    have := held.within
    simp only [part, List.length_take, List.length_drop]
    omega
  have jobs : ∀ other, (FileTask.writing job location linked (written + part.length)).job =
      some other → other.Valid env notes := by
    rintro other ⟨⟩
    exact valid
  cases linked with
  | false =>
      refine ⟨core.setTask inside nofun jobs ?_ (by simp [places]) (fun _ _ => rfl) nofun, ?_⟩
      · rintro other place linked reached ⟨⟩
        rw [if_neg Bool.false_ne_true, List.append_nil]
        refine ⟨held.there, held.clear, within, held.begun, fun alone => ?_⟩
        cases (held.kept alone).1
      · rw [if_neg Bool.false_ne_true, List.append_nil]
        exact chronicle
  | true =>
      have changed : Fits env initial auto notes (.changed index (.write location
          (FilePaths.patch (FilePaths.contentAt state.files location) written part))) := by
        refine ⟨clear, job.text, ?_, .inr ⟨written, count + 1, by rw [files]⟩⟩
        rw [jobLocation_eq valid held.there held.clear]
        exact mayHold_job valid
      refine ⟨core.setTask inside nofun jobs ?_ ?_ ?_ nofun, chronicle.add changed⟩
      · rintro other place linked reached ⟨⟩
        refine ⟨held.there, held.clear, within, ?_, fun alone => ⟨rfl, ?_⟩⟩
        · rw [places_append]
          exact List.mem_append_left _ held.begun
        · have before : Alone index location notes := by
            rw [Alone, places_append] at alone
            exact (List.pairwise_append.mp alone).1
          have content : FilePaths.contentAt state.files location =
              (utf8 job.text).take written := by
            rw [files, FilePaths.contentAt, (held.kept before).2]
          rw [if_pos rfl, treeAfter_append, content, FilePaths.patch_take held.within]
          exact Function.update_self _ _ _
      · simp [places, place]
      · simp [looks]

theorem fileStep_kept (files : state.files = treeAfter initial notes)
    (core : Core env initial auto state notes)
    (chronicle : Chronicle (Fits env initial auto) notes) {index : Nat} {task : FileTask}
    (found : state.tasks[index]? = some task) (ok : Bool) (count : Nat) (os : String) :
    Kept env initial auto notes (state.fileStep env index ok count os task) := by
  have member := List.mem_of_getElem? found
  have inside := (List.getElem?_eq_some_iff.mp found).1
  have finished := core.finish inside
  cases task with
  | get name =>
      have valid := core.valid _ member name rfl
      rw [fileStep]
      split
      · rename_i content read
        refine .note finished chronicle (fun _ => rfl) rfl ⟨valid, ?_⟩
        split at read
        · rw [← files]
          exact read
        · cases read
      · exact .refused finished chronicle trivial
  | checkExists name =>
      have valid := core.valid _ member name rfl
      rw [fileStep]
      split
      · refine .silent (core.silent inside ?_ rfl nofun) chronicle
        rintro other ⟨⟩
        exact valid
      · rename_i absent
        exact .refused finished chronicle ⟨valid, files ▸ Bool.eq_false_iff.mpr absent⟩
  | remove name =>
      have valid := core.valid _ member name rfl
      rw [fileStep]
      split
      · rename_i change removed
        split at removed
        · exact remove_kept files core chronicle inside valid removed
        · cases removed
      · exact .refused finished chronicle trivial
  | write job =>
      rw [fileStep]
      split
      · rename_i location created
        split at created
        · exact opened_kept files core chronicle inside (core.jobs _ member job rfl) created
        · cases created
      · exact failed_kept (Core.endWrite core inside job) chronicle job os
  | writing job location linked written =>
      rw [fileStep]
      split
      · rename_i empty
        refine success_kept (Core.endWrite core inside job) chronicle (core.jobs _ member job rfl)
          (core.held index job location linked written found) ?_
        rcases List.take_eq_nil_iff.mp empty with none | past
        · omega
        · exact List.drop_eq_nil_iff.mp past
      · split
        · exact written_kept files core chronicle found count
        · exact failed_kept (Core.endWrite core inside job) chronicle job os
  | list summaries | finished => exact .silent core chronicle

theorem summary_eq_some {name : List Char} {summary : ConfigSummary}
    (shown : state.summary env name = some summary) : ∃ content config configName,
      env.readToString state.files (configPath summary.fileName) = some content ∧
        env.parse content = .ok (config, configName) ∧
          summary.configName = configName.getD summary.fileName := by
  rw [WebState.summary] at shown
  split at shown
  · obtain ⟨content, read, shown⟩ := Option.bind_eq_some_iff.mp shown
    cases parsed : env.parse content with
    | error message => simp [parsed] at shown
    | ok both =>
        obtain ⟨config, configName⟩ := both
        simp only [parsed, Option.some.injEq] at shown
        subst shown
        exact ⟨content, config, configName, by simpa [configPath] using read, parsed, rfl⟩
  · cases shown

theorem entryStep_kept (files : state.files = treeAfter initial notes)
    (core : Core env initial auto state notes)
    (chronicle : Chronicle (Fits env initial auto) notes) {index : Nat} {task : FileTask}
    (found : state.tasks[index]? = some task) (name : Option (List Char)) (ok : Bool) :
    Kept env initial auto notes (state.entryStep env index name ok task) := by
  have inside := (List.getElem?_eq_some_iff.mp found).1
  cases task with
  | list held =>
      have listed := core.listing index held found
      cases name with
      | none =>
          refine .note (core.finish inside) chronicle (fun _ => rfl) rfl ⟨?_, ?_⟩
          · rw [← listed]
            exact List.perm_insertionSort _ held
          · exact List.pairwise_insertionSort _ held
      | some name =>
          rw [entryStep]
          split
          · exact .silent core chronicle
          · rename_i summary shown
            split at shown
            · obtain ⟨content, config, configName, read, parsed, named⟩ := summary_eq_some shown
              have fits : Fits env initial auto notes (.looked index summary) :=
                ⟨content, config, configName, files ▸ read, parsed, named⟩
              refine ⟨core.setTask inside nofun nofun nofun nofun ?_ ?_, chronicle.add fits⟩
              · intro other differs
                simp [looks, Ne.symm differs]
              · rintro found ⟨⟩
                simp [looks, ← listed]
            · cases shown
  | get | checkExists | remove | write | writing | finished => exact .silent core chronicle

theorem fileOf_append {attempt : Nat} {file : StartFile} (known : state.fileOf attempt = some file)
    (more : List (Option StartFile)) :
    WebState.fileOf { state with started := state.started ++ more } attempt = some file := by
  have there := Option.join_eq_some_iff.mp known
  rw [fileOf, List.getElem?_append_left (List.getElem?_eq_some_iff.mp there).1, there]
  rfl

theorem advance_kept (files : state.files = treeAfter initial notes)
    (core : Core env initial auto state notes)
    (chronicle : Chronicle (Fits env initial auto) notes) {index : Nat} {task : HttpTask}
    (found : state.http.tasks[index]? = some task) (ok : Bool) :
    Kept env initial auto notes (state.advance env index ok task) := by
  have moves := fun unread => Core.advance core found unread ok
  cases task with
  | readConfig attempt =>
      rw [WebState.advance]
      split
      · refine .silent (core.http fun number later => ?_) chronicle
        rw [step_advance found] at later
        exact later.proceed (List.mem_of_getElem? found) state.http.still (.inl rfl)
      · rename_i file content config read
        obtain ⟨own, known, mapped⟩ := Option.bind_eq_some_iff.mp read
        obtain ⟨loaded, text, same⟩ := Option.map_eq_some_iff.mp mapped
        cases same
        split at text
        · have asked : Asked auto file :=
            core.started file (List.mem_of_getElem? (Option.join_eq_some_iff.mp known))
          have fits : Fits env initial auto notes (.loaded attempt file content config) :=
            ⟨asked, files ▸ text⟩
          have later : Core env initial auto state
              (notes ++ [.loaded attempt file content config]) :=
            core.later (fun note member => List.mem_singleton.mp member ▸ fun _ => rfl) rfl
          refine ⟨⟨later.requested, later.started, ?_, later.valid, later.jobs, later.held,
            later.listing, later.fresh⟩, chronicle.add fits⟩
          rintro number (stored | ⟨task, member, own⟩)
          · rw [step_advance found] at stored
            exact later.loaded number (.inl stored)
          · rw [step_advance found] at member
            rcases List.mem_or_eq_of_mem_set member with old | rfl
            · exact later.loaded number (.inr ⟨task, old, own⟩)
            · cases own
              exact ⟨file, content, config, known, by simp⟩
        · cases text
  | start =>
      refine .silent ?_ chronicle
      have moved := moves nofun
      refine ⟨moved.requested, ?_, ?_, moved.valid, moved.jobs, moved.held, moved.listing,
        moved.fresh⟩
      · intro file member
        simp only at member
        split at member
        · rcases List.mem_append.mp member with old | new
          · exact core.started file old
          · exact core.requested index file (List.mem_singleton.mp new).symm
        · exact core.started file member
      · intro attempt loaded
        obtain ⟨file, content, config, known, noted⟩ := moved.loaded attempt loaded
        refine ⟨file, content, config, ?_, noted⟩
        split
        · exact fileOf_append known _
        · exact known
  | stopGroup =>
      refine .silent ((moves nofun).addTask nofun ?_ nofun nofun) chronicle
      rintro job ⟨⟩
      trivial
  | recordCurrent attempt =>
      have member := List.mem_of_getElem? found
      obtain ⟨file, content, config, known, noted⟩ := core.loaded attempt (.inr ⟨_, member, rfl⟩)
      simp only [WebState.advance, known]
      split
      · exact .silent core chronicle
      · refine .silent (core.addTask nofun ?_ nofun nofun) chronicle
        rintro job ⟨⟩
        exact ⟨content, config, noted⟩
  | _ => exact .silent (moves nofun) chronicle

variable (env initial auto) in
/-- The files are what the notes have made of them, and so is the network that is up. -/
structure WebState.Sound (state : WebState) (notes : List (WebNote SocketAddr)) : Prop where
  files : state.files = treeAfter initial notes
  network : networkAfter notes = state.http.vnt
  core : Core env initial auto state notes

theorem handle_kept (sound : state.Sound env initial auto notes)
    (chronicle : Chronicle (Fits env initial auto) notes) (event : WebEvent) :
    Kept env initial auto notes (state.handle env event) := by
  obtain ⟨files, network, core⟩ := sound
  cases event with
  | saveConfig fileName config now => exact saveConfig_kept core chronicle fileName config now
  | getConfig fileName =>
      refine checkFile_kept files core chronicle fun valid => core.addTask ?_ nofun nofun nofun
      rintro name ⟨⟩
      exact valid
  | deleteConfig fileName => exact deleteConfig_kept network core chronicle fileName
  | listConfigs readable =>
      rw [handle]
      split
      · exact .silent (core.addTask nofun nofun nofun (by rintro found ⟨⟩; rfl)) chronicle
      · refine .note (core.addTask nofun nofun nofun nofun) chronicle (fun _ => rfl) rfl ⟨?_, .nil⟩
        rw [core.fresh _ (Nat.le_refl _)]
  | startVnt fileName | restartVnt fileName =>
      refine checkFile_kept files core chronicle fun valid => arrive_kept core _ ?_
      rintro named ⟨⟩
      exact .inr ⟨valid, rfl⟩
  | stopVnt => exact .silent (arrive_kept core _ nofun) chronicle
  | file index ok count os =>
      rw [handle]
      split
      · exact .silent core chronicle
      · rename_i found
        exact fileStep_kept files core chronicle found ok count os
  | entry index name ok =>
      rw [handle]
      split
      · exact .silent core chronicle
      · rename_i found
        exact entryStep_kept files core chronicle found name ok
  | advance index ok =>
      rw [handle]
      split
      · exact .silent core chronicle
      · rename_i found
        exact advance_kept files core chronicle found ok
  | tasksEnd group =>
      refine .silent (core.http fun attempt later => ?_) chronicle
      simp only [HttpAppState.step] at later
      split at later <;> exact later
  | taskStops group => exact .silent (core.http fun attempt later => later) chronicle

theorem networkAfter_of_none (notes : List (WebNote SocketAddr)) {more : List (WebNote SocketAddr)}
    (none : more.filterMap WebNote.stored = []) :
    networkAfter (notes ++ more) = networkAfter notes := by
  rw [networkAfter, List.filterMap_append, none, List.append_nil, ← networkAfter]

/-- The start and stop requests stay as they are or go one step on, and the notes say nothing of
the network itself. -/
def Moves (http : HttpAppState) (result : WebState × List (WebNote SocketAddr)) : Prop :=
  (result.1.http = http ∨ ∃ event, result.1.http = (http.step event).1) ∧
    result.2.filterMap WebNote.stored = []

theorem checkFile_moves (state : WebState) (fileName : String) {next : WebState}
    (goes : next.http = state.http ∨ ∃ event, next.http = (state.http.step event).1) :
    Moves state.http (state.checkFile env fileName next) := by
  rw [checkFile]
  split
  · exact ⟨.inl rfl, rfl⟩
  · split
    · exact ⟨goes, rfl⟩
    · exact ⟨.inl rfl, rfl⟩

theorem endWrite_moves (state : WebState) (index : Nat) (job : WriteJob)
    {notes : List (WebNote SocketAddr)} (silent : notes.filterMap WebNote.stored = []) :
    Moves state.http (state.endWrite index job, notes) := by
  refine ⟨?_, silent⟩
  cases job with
  | save | clear => exact .inl rfl
  | record attempt waiting file =>
      rw [endWrite]
      split
      · exact .inr ⟨_, rfl⟩
      · exact .inl rfl

theorem failure_stored (job : WriteJob) (os : String) :
    (job.failure os : List (WebNote SocketAddr)).filterMap WebNote.stored = [] := by
  cases job <;> rfl

theorem fileStep_moves (state : WebState) (index : Nat) (ok : Bool) (count : Nat) (os : String)
    (task : FileTask) : Moves state.http (state.fileStep env index ok count os task) := by
  cases task with
  | get name =>
      rw [fileStep]
      split <;> exact ⟨.inl rfl, rfl⟩
  | checkExists name | remove name =>
      rw [fileStep]
      split <;> exact ⟨.inl rfl, rfl⟩
  | write job =>
      rw [fileStep]
      split
      · exact ⟨.inl rfl, rfl⟩
      · exact endWrite_moves state index job (failure_stored job os)
  | writing job location linked written =>
      rw [fileStep]
      split
      · exact endWrite_moves state index job (by cases job <;> rfl)
      · split
        · exact ⟨.inl rfl, by cases linked <;> rfl⟩
        · exact endWrite_moves state index job (failure_stored job os)
  | list | finished => exact ⟨.inl rfl, rfl⟩

theorem entryStep_moves (state : WebState) (index : Nat) (name : Option (List Char)) (ok : Bool)
    (task : FileTask) : Moves state.http (state.entryStep env index name ok task) := by
  cases task with
  | list held =>
      cases name with
      | none => exact ⟨.inl rfl, rfl⟩
      | some name =>
          rw [entryStep]
          split <;> exact ⟨.inl rfl, rfl⟩
  | _ => exact ⟨.inl rfl, rfl⟩

theorem advance_moves (state : WebState) (index : Nat) (ok : Bool) (task : HttpTask) :
    Moves state.http (state.advance env index ok task) := by
  cases task with
  | readConfig attempt =>
      rw [WebState.advance]
      split <;> exact ⟨.inr ⟨_, rfl⟩, rfl⟩
  | recordCurrent attempt =>
      rw [WebState.advance]
      split
      · exact ⟨.inr ⟨_, rfl⟩, rfl⟩
      · split <;> exact ⟨.inl rfl, rfl⟩
  | _ => exact ⟨.inr ⟨.advance index ok, rfl⟩, rfl⟩

variable (env) in
theorem handle_moves (state : WebState) (event : WebEvent) :
    Moves state.http (state.handle env event) := by
  cases event with
  | saveConfig fileName config now =>
      rw [handle, saveConfig]
      split
      · exact ⟨.inl rfl, rfl⟩
      · simp only
        split <;> exact ⟨.inl rfl, rfl⟩
  | getConfig fileName => exact checkFile_moves state fileName (.inl rfl)
  | deleteConfig fileName =>
      rw [handle, deleteConfig]
      split
      · exact ⟨.inl rfl, rfl⟩
      · split <;> exact ⟨.inl rfl, rfl⟩
  | listConfigs readable => cases readable <;> exact ⟨.inl rfl, rfl⟩
  | startVnt fileName | restartVnt fileName =>
      exact checkFile_moves state fileName (.inr ⟨_, rfl⟩)
  | stopVnt => exact ⟨.inr ⟨_, rfl⟩, rfl⟩
  | file index ok count os =>
      rw [handle]
      split
      · exact ⟨.inl rfl, rfl⟩
      · exact fileStep_moves state index ok count os _
  | entry index name ok =>
      rw [handle]
      split
      · exact ⟨.inl rfl, rfl⟩
      · exact entryStep_moves state index name ok _
  | advance index ok =>
      rw [handle]
      split
      · exact ⟨.inl rfl, rfl⟩
      · exact advance_moves state index ok _
  | tasksEnd group => exact ⟨.inr ⟨_, rfl⟩, rfl⟩
  | taskStops group => exact ⟨.inr ⟨_, rfl⟩, rfl⟩

theorem step_kept (sound : state.Sound env initial auto notes)
    (chronicle : Chronicle (Fits env initial auto) notes) (event : WebEvent) :
    (state.step env event).1.Sound env initial auto (notes ++ (state.step env event).2) ∧
      Chronicle (Fits env initial auto) (notes ++ (state.step env event).2) := by
  obtain ⟨core, later⟩ := handle_kept sound chronicle event
  have files : FilePaths.replay state.files
      ((state.handle env event).2.filterMap WebNote.change) =
        treeAfter initial (notes ++ (state.handle env event).2) := by
    rw [treeAfter_append, ← sound.files]
  have network := networkAfter_of_none notes (handle_moves env state event).2
  have moved : Core env initial auto
      { (state.handle env event).1 with
        files := FilePaths.replay state.files
          ((state.handle env event).2.filterMap WebNote.change) }
      (notes ++ (state.handle env event).2) :=
    ⟨core.requested, core.started, core.loaded, core.valid, core.jobs, core.held, core.listing,
      core.fresh⟩
  rw [WebState.step]
  dsimp only
  split
  · rename_i same
    rw [List.append_nil]
    exact ⟨⟨files, (network.trans sound.network).trans same.symm, moved⟩, later⟩
  · rw [← List.append_assoc]
    have told : Kept env initial auto (notes ++ (state.handle env event).2)
        (_, [.network (state.handle env event).1.http.vnt]) :=
      .note moved later (fun _ => rfl) rfl fun attempt stored => by
        obtain ⟨file, content, config, _, noted⟩ := core.loaded attempt (.inl stored)
        exact ⟨file, content, config, noted⟩
    refine ⟨⟨?_, ?_, told.1⟩, told.2⟩
    · rw [treeAfter_append]
      exact files
    · simp [networkAfter, WebNote.stored]

theorem boot_sound (tree : Tree) (given : Option (List Char)) :
    (boot env tree given).Sound env tree (env.determineAutoStartFile tree given)
      ([] : List (WebNote SocketAddr)) := by
  rw [boot]
  cases env.determineAutoStartFile tree given with
  | none =>
      refine ⟨rfl, rfl, nofun, nofun, ?_, nofun, nofun, nofun, nofun, fun _ _ => rfl⟩
      rintro attempt (stored | ⟨task, member, own⟩)
      · cases stored
      · cases member
  | some file =>
      refine ⟨rfl, rfl, ?_, nofun, ?_, nofun, nofun, nofun, nofun, fun _ _ => rfl⟩
      · intro index named known
        simp only [Function.update_apply] at known
        split at known
        · cases known
          exact .inl rfl
        · cases known
      · rintro attempt (stored | ⟨task, member, own⟩)
        · cases stored
        · rw [List.mem_singleton.mp member] at own
          cases own

/-- A change in the notes has been allowed, and was to no directory. -/
theorem changed_allowed (chronicle : Chronicle (Fits env initial auto) notes) {index : Nat}
    {change : Change} (noted : .changed index change ∈ notes) :
    ∃ before, Allowed env initial before change := by
  obtain ⟨before, after, split⟩ := List.append_of_mem noted
  exact ⟨before, (chronicle before _ after split).2⟩

/-- A file reads as it did before changes that are to other files. -/
theorem read_later {before after : List (WebNote SocketAddr)}
    (chronicle : Chronicle (Fits env initial auto) (before ++ after)) {path : List Char}
    {location : Location} {text : String}
    (there : FilePaths.locate (treeAfter initial before) env.current path = some location)
    (read : env.readToString (treeAfter initial before) path = some text)
    (apart : ∀ place ∈ places after, place.2 ≠ location) :
    env.readToString (treeAfter initial (before ++ after)) path = some text := by
  have first : FilePaths.SameDirectories (treeAfter initial before) initial := by
    cases after with
    | nil => exact directories_kept (List.append_nil before ▸ chronicle)
    | cons note rest => exact directories_kept (chronicle.before rfl)
  have both : FilePaths.SameDirectories (treeAfter initial (before ++ after))
      (treeAfter initial before) :=
    fun here => (directories_kept chronicle here).trans (first here).symm
  rw [WebEnv.readToString, FilePaths.read] at read ⊢
  rw [FilePaths.locate_congr both, there, Option.bind_some, treeAfter_apart apart]
  rwa [there, Option.bind_some] at read

theorem located_of_read {tree : Tree} {path : List Char} {text : String}
    (read : env.readToString tree path = some text) : ∃ location bytes,
      FilePaths.locate tree env.current path = some location ∧
        tree location = some (.file bytes) ∧ ofUtf8 bytes = some text := by
  obtain ⟨bytes, there, decoded⟩ := Option.bind_eq_some_iff.mp read
  obtain ⟨location, located, held⟩ := FilePaths.read_eq_some.mp there
  exact ⟨location, bytes, located, held, decoded⟩

end Kept

def sampleService : WebEnv Nat where
  mapping := RustText.unicodeCase (fun _ => true) fun _ => false
  parseSocketAddr _ := none
  decodeHex _ := .err "Odd number of digits"
  getDeviceId := .ok "id"
  defaultHostname := "host"
  parse _ := .ok (⟨[], none, "code", none, none, none, none, none, false, false, false, false, [], [],
    false, true, none, [], false, [], []⟩, none)
  current := []

def sampleFiles : Tree := fun location =>
  if location = [] ∨ location = [configDir] then some .directory else none

def sampleRun (events : List WebEvent) : WebState × List (WebNote Nat) :=
  Machine.run (WebState.step sampleService) (WebState.boot sampleService sampleFiles none) events

/-- Two configurations are saved at once, each in pieces, and the first is read. -/
def sampleSaves (first second : String) : List WebEvent :=
  [.saveConfig (some first) "no_tun = true" 0, .saveConfig (some second) "mtu = 1400" 0,
    .file 0 true 0 "", .file 1 true 0 "", .file 0 true 4 "", .file 0 true 99 "",
    .file 1 true 99 "", .file 0 true 0 "", .getConfig first, .file 1 true 0 "", .file 2 true 0 ""]

-- Under one name each writes at its own place in the file.
example : WebNote.got "home.toml" "mtu = 1400rue" ∈
    (sampleRun (sampleSaves "home.toml" "home.toml")).2 := by
  decide +kernel

end VntClient
