import VntClient.FecDecoder
import VntClient.Profiles

/-!
The dashboard of `vntc-manager/src/main.rs`: the snapshot of one profile, and the summary
of all of them. Sums wrap around, as they do in a release build.
-/

namespace VntClient

structure TrafficSample where
  recordedAt : Instant
  totalTxBytes : UInt64
  totalRxBytes : UInt64

/-- Built by `profile_runtime_summary` only, where what starts is running. -/
structure ProfileRuntimeSummary where
  status : String
  running : Bool
  virtualIp : Option String
  onlineCount : UInt32
  offlineCount : UInt32
  uploadBytesPerSecond : UInt64
  downloadBytesPerSecond : UInt64
  totalTxBytes : UInt64
  totalRxBytes : UInt64
  started : status = "starting" → running = true

structure ManagedProfileSnapshot where
  profile : ProfileMeta
  runtime : ProfileRuntimeSummary

structure AppInfo where
  ip : Option Ipv4Addr
  onlineClientNum : UInt32
  offlineClientNum : UInt32

/-- What a client answers over its control port; `none` is a failed request. -/
structure IpcAnswers where
  appInfo : Option AppInfo
  trafficList : Option (List (UInt64 × UInt64))

def saturatingSub (left right : UInt64) : UInt64 := if right ≤ left then left - right else 0

def profileRuntimeSummary (sessionIsRunning : Bool) (ipc : IpcAnswers)
    (previous : Option TrafficSample) (now : Instant) :
    ProfileRuntimeSummary × Option TrafficSample :=
  if !sessionIsRunning then
    (⟨"stopped", false, none, 0, 0, 0, 0, 0, 0, fun starting => absurd starting (by decide)⟩,
      previous)
  else
    match ipc.appInfo with
    | none => (⟨"starting", true, none, 0, 0, 0, 0, 0, 0, fun _ => rfl⟩, previous)
    | some appInfo =>
        let items := ipc.trafficList.getD []
        let totalTxBytes := (items.map Prod.fst).sum
        let totalRxBytes := (items.map Prod.snd).sum
        let rate := fun (total : UInt64) (before : TrafficSample → UInt64) =>
          match previous with
          | none => 0
          | some sample =>
              let elapsedMs := UInt64.ofNat (max ((now - sample.recordedAt) / fromMillis 1) 1)
              saturatingSub total (before sample) * 1000 / elapsedMs
        ({
          status := "running"
          running := true
          virtualIp := appInfo.ip.map displayIp
          onlineCount := appInfo.onlineClientNum
          offlineCount := appInfo.offlineClientNum
          uploadBytesPerSecond := rate totalTxBytes TrafficSample.totalTxBytes
          downloadBytesPerSecond := rate totalRxBytes TrafficSample.totalRxBytes
          totalTxBytes, totalRxBytes
          started := fun _ => rfl }, some ⟨now, totalTxBytes, totalRxBytes⟩)

structure DashboardSummary where
  checkedProfileCount : Nat
  runningProfileCount : Nat
  connectedProfileCount : Nat
  totalOnlineCount : UInt64
  totalOfflineCount : UInt64
  aggregateUploadBytesPerSecond : UInt64
  aggregateDownloadBytesPerSecond : UInt64
  aggregateTotalTxBytes : UInt64
  aggregateTotalRxBytes : UInt64
  overallStatus : String

def buildDashboardSummary (snapshots : List ManagedProfileSnapshot) : DashboardSummary :=
  let checkedProfileCount := snapshots.countP fun item => item.profile.checked
  let runningProfileCount := snapshots.countP fun item => item.runtime.running
  let total := fun read : ProfileRuntimeSummary → UInt64 =>
    (snapshots.map fun item => read item.runtime).sum
  {
    checkedProfileCount, runningProfileCount
    connectedProfileCount := runningProfileCount
    totalOnlineCount := total fun runtime => runtime.onlineCount.toUInt64
    totalOfflineCount := total fun runtime => runtime.offlineCount.toUInt64
    aggregateUploadBytesPerSecond := total ProfileRuntimeSummary.uploadBytesPerSecond
    aggregateDownloadBytesPerSecond := total ProfileRuntimeSummary.downloadBytesPerSecond
    aggregateTotalTxBytes := total ProfileRuntimeSummary.totalTxBytes
    aggregateTotalRxBytes := total ProfileRuntimeSummary.totalRxBytes
    overallStatus :=
      if runningProfileCount = 0 then "stopped"
      else if (snapshots.any fun item => item.runtime.status == "starting") ||
          (0 < checkedProfileCount && runningProfileCount < checkedProfileCount) then "partial"
      else "running" }

namespace DashboardSummary
variable (snapshots : List ManagedProfileSnapshot)

/-- Every checked profile is up, and whatever runs has started. -/
structure FullyRunning : Prop where
  some : ∃ item ∈ snapshots, item.runtime.running = true
  settled : ∀ item ∈ snapshots, item.runtime.running = true → item.runtime.status ≠ "starting"
  checked : ∀ item ∈ snapshots, item.profile.checked = true → item.runtime.running = true

/-- A status that says how it stands. -/
structure Truthful (status : String) : Prop where
  running : status = "running" ↔ FullyRunning snapshots
  stopped : status = "stopped" ↔ ∀ item ∈ snapshots, item.runtime.running = false
  partly : status = "partial" ↔
    (∃ item ∈ snapshots, item.runtime.running = true) ∧ ¬ FullyRunning snapshots

def checkedStopped : Nat :=
  snapshots.countP fun item => item.profile.checked && !item.runtime.running

def uncheckedRunning : Nat :=
  snapshots.countP fun item => !item.profile.checked && item.runtime.running

/-- Where profiles run and none is starting, those that should run and do not are
more than those that run unasked. -/
def Outnumbered : Prop :=
  (∃ item ∈ snapshots, item.runtime.running = true) →
    (∀ item ∈ snapshots, item.runtime.status ≠ "starting") →
      0 < checkedStopped snapshots → uncheckedRunning snapshots < checkedStopped snapshots

/-- The profiles that are checked and run count on both sides. -/
theorem counts_balance :
    (buildDashboardSummary snapshots).checkedProfileCount + uncheckedRunning snapshots =
      (buildDashboardSummary snapshots).runningProfileCount + checkedStopped snapshots := by
  simp only [buildDashboardSummary, uncheckedRunning, checkedStopped]
  induction snapshots with
  | nil => rfl
  | cons item rest ih =>
      simp only [List.countP_cons]
      cases item.profile.checked <;> cases item.runtime.running <;> simp <;> omega

theorem runningProfileCount_eq_zero : (buildDashboardSummary snapshots).runningProfileCount = 0 ↔
    ∀ item ∈ snapshots, item.runtime.running = false := by
  simp only [buildDashboardSummary, List.countP_eq_zero, Bool.not_eq_true]

theorem checkedStopped_eq_zero : checkedStopped snapshots = 0 ↔
    ∀ item ∈ snapshots, item.profile.checked = true → item.runtime.running = true := by
  simp [checkedStopped, List.countP_eq_zero]

theorem overallStatus_eq : (buildDashboardSummary snapshots).overallStatus =
    if ∀ item ∈ snapshots, item.runtime.running = false then "stopped"
    else if (∃ item ∈ snapshots, item.runtime.status = "starting") ∨
      uncheckedRunning snapshots < checkedStopped snapshots then "partial" else "running" := by
  have behind : 0 < (buildDashboardSummary snapshots).checkedProfileCount ∧
      (buildDashboardSummary snapshots).runningProfileCount <
        (buildDashboardSummary snapshots).checkedProfileCount ↔
      uncheckedRunning snapshots < checkedStopped snapshots := by
    have balance := counts_balance snapshots
    omega
  simp only [← runningProfileCount_eq_zero, ← behind]
  simp only [buildDashboardSummary, Bool.or_eq_true, Bool.and_eq_true, List.any_eq_true,
    beq_iff_eq, decide_eq_true_eq]

variable {snapshots}

/-- Who starts is running, so a starting profile keeps the rest from being all there is. -/
theorem fullyRunning_iff (some : ∃ item ∈ snapshots, item.runtime.running = true) :
    FullyRunning snapshots ↔
      (∀ item ∈ snapshots, item.runtime.status ≠ "starting") ∧ checkedStopped snapshots = 0 := by
  constructor
  · intro full
    constructor
    · intro item member starting
      exact full.settled item member (item.runtime.started starting) starting
    · exact (checkedStopped_eq_zero snapshots).mpr full.checked
  · rintro ⟨settled, none⟩
    exact ⟨some, fun item member _ => settled item member, (checkedStopped_eq_zero snapshots).mp none⟩

theorem truthful_stopped (idle : ∀ item ∈ snapshots, item.runtime.running = false) :
    Truthful snapshots "stopped" := by
  have none : ¬ ∃ item ∈ snapshots, item.runtime.running = true := by
    rintro ⟨item, member, running⟩
    rw [idle item member] at running
    cases running
  constructor
  · exact iff_of_false (by decide) fun full => none full.some
  · exact iff_of_true rfl idle
  · exact iff_of_false (by decide) fun partly => none partly.1

section Running
variable (some : ∃ item ∈ snapshots, item.runtime.running = true)
include some

theorem not_idle : ¬ ∀ item ∈ snapshots, item.runtime.running = false := by
  intro idle
  obtain ⟨item, member, running⟩ := some
  rw [idle item member] at running
  cases running

theorem truthful_partial_iff : Truthful snapshots "partial" ↔ ¬ FullyRunning snapshots := by
  constructor
  · exact fun truthful => (truthful.partly.mp rfl).2
  · intro less
    constructor
    · exact iff_of_false (by decide) less
    · exact iff_of_false (by decide) (not_idle some)
    · exact iff_of_true rfl ⟨some, less⟩

theorem truthful_running_iff : Truthful snapshots "running" ↔ FullyRunning snapshots := by
  constructor
  · exact fun truthful => truthful.running.mp rfl
  · intro full
    constructor
    · exact iff_of_true rfl full
    · exact iff_of_false (by decide) (not_idle some)
    · exact iff_of_false (by decide) fun partly => partly.2 full

end Running

/-- The summary tells how it stands exactly if the counts cannot hide a checked profile
that is stopped behind an unchecked one that runs. -/
theorem buildDashboardSummary_truthful_iff (snapshots : List ManagedProfileSnapshot) :
    Truthful snapshots (buildDashboardSummary snapshots).overallStatus ↔ Outnumbered snapshots := by
  rw [overallStatus_eq]
  by_cases idle : ∀ item ∈ snapshots, item.runtime.running = false
  · rw [if_pos idle]
    refine iff_of_true (truthful_stopped idle) fun some => absurd idle (not_idle some)
  · have some : ∃ item ∈ snapshots, item.runtime.running = true := by simpa using idle
    rw [if_neg idle]
    by_cases behind : (∃ item ∈ snapshots, item.runtime.status = "starting") ∨
        uncheckedRunning snapshots < checkedStopped snapshots
    · rw [if_pos behind, truthful_partial_iff some, fullyRunning_iff some]
      rcases behind with ⟨item, member, starting⟩ | fewer
      · exact iff_of_true (fun full => full.1 item member starting)
          fun _ settled => absurd starting (settled item member)
      · exact iff_of_true (fun full => by omega) fun _ _ _ => fewer
    · obtain ⟨settled, fewer⟩ := not_or.mp behind
      have settled : ∀ item ∈ snapshots, item.runtime.status ≠ "starting" :=
        fun item member starting => settled ⟨item, member, starting⟩
      rw [if_neg behind, truthful_running_iff some, fullyRunning_iff some]
      constructor
      · rintro ⟨_, none⟩ _ _ stopped
        omega
      · intro outnumbered
        exact ⟨settled, Nat.eq_zero_of_not_pos fun stopped =>
          fewer (outnumbered some settled stopped)⟩

def snapshot (id : String) (checked running : Bool) : ManagedProfileSnapshot where
  profile := ⟨id, id, "", "", "", 0, "", false, true, "", checked⟩
  runtime := (profileRuntimeSummary running ⟨some ⟨none, 0, 0⟩, none⟩ none 0).1

theorem buildDashboardSummary_not_truthful :
    ¬ ∀ snapshots, Truthful snapshots (buildDashboardSummary snapshots).overallStatus := by
  intro truthful
  have full := (truthful [snapshot "office" true false, snapshot "home" false true]).running.mp
    (by decide)
  exact absurd (full.checked _ List.mem_cons_self rfl) (by decide)

end DashboardSummary

end VntClient
