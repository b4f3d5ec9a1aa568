import Redfin.Dumpstate.Delivered
import Redfin.Dumpstate.RoundTrip

/-!
# What the receiver of a dump reads

Where nothing shows of an earlier dump, what the file descriptor for the modem receives is an
archive, and a reader of the format gets out of it exactly the logs of the device
(`received_logs`).
-/

namespace Redfin.Dumpstate

/-- What a reader gets of a log. -/
def Step.extracted (step : Step) : Extracted := ⟨step.name.bytes, step.bytes⟩

variable {dev : Device}

/-- A clean run archives each log once. -/
lemma perm_readdir (order : Listing) :
    (order.readdir (dev.staged .clean).keys).Perm (dev.steps.map Step.name) := by
  rw [List.perm_ext_iff_of_nodup (order.readdir_nodup _) (nodup_steps dev)]
  intro d_name
  rw [order.mem_readdir, keys_clean, mem_names, List.mem_map]

/-- The archive of a clean run is read back. -/
theorem read_archive (order : Listing) (h : ∀ step ∈ dev.steps, step.name.bytes.length ≤ 100 ∧
    step.bytes.length < 8 ^ 11) :
    ∃ files, ustarRead (order.archive (dev.staged .clean)) = some files ∧
      files.Perm (dev.steps.map Step.extracted) := by
  let member (d_name : FileName) := memberOf d_name (contentOf (dev.staged .clean) d_name)
  have exact : ∀ m ∈ (order.readdir (dev.staged .clean).keys).map member, m.Exact := by
    intro m hm
    obtain ⟨d_name, hd, rfl⟩ := List.mem_map.mp hm
    obtain ⟨step, hs, rfl⟩ := List.mem_map.mp ((perm_readdir order).mem_iff.mp hd)
    have content : member step.name = memberOf step.name step.bytes :=
      congrArg (memberOf step.name) (content_clean hs)
    rw [content]
    exact ⟨(h step hs).1, toNat_st_size step.name (bytes_lt hs), (h step hs).2⟩
  have archive : order.archive (dev.staged .clean) =
      ((order.readdir (dev.staged .clean).keys).map member).flatMap Member.encode := by
    rw [List.flatMap_map]
    rfl
  refine ⟨_, archive ▸ read_members exact, ?_⟩
  have logs : ((dev.steps.map Step.name).map member).map Member.extracted =
      dev.steps.map Step.extracted := by
    rw [List.map_map, List.map_map]
    apply List.map_congr_left
    intro step hs
    exact congrArg (Extracted.mk step.name.bytes) (content_clean hs)
  rw [← logs]
  exact ((perm_readdir order).map member).map Member.extracted

namespace Service

open Program

/-- However the dump interleaves with the request and with other processes: where everything can be
read and written, no name is longer than the header holds, no log reaches eight gibibytes and
nothing shows of an earlier dump, the receiver reads exactly the logs of the device. -/
theorem received_logs {io : Io} {left : Leftovers} {fdModem : ℤ} (hio : io.Complete)
    (modemLogDir : dev.modemLogDir ≠ []) (filePrefix : dev.filePrefix ≠ [])
    (logs : ∀ step ∈ dev.steps, step.name.bytes.length ≤ 100 ∧ step.bytes.length < 8 ^ 11)
    (harmless : Harmless dev left) {props : String → List UInt8}
    {c : Config sig Thread Next Shared}
    (run : (service io dev).Run (configured dev) (service.start props left) c)
    (finished : c.prog .modem = .ret (.finished fdModem)) :
    ∃ files, ustarRead (c.shared.files.sent fdModem) = some files ∧
      files.Perm (dev.steps.map Step.extracted) := by
  have sent : Dumpstate.dumpModemThread io dev left = io.archive (dev.staged .clean) := by
    rw [dumpModemThread_complete hio, if_neg (not_or.mpr ⟨modemLogDir, filePrefix⟩),
      archive_over_clean_iff.mpr harmless]
  have files := delivered run finished
  generalize c.shared.files = f at files ⊢
  cases files with
  | unset unset => exact absurd unset (not_or.mpr ⟨modemLogDir, filePrefix⟩)
  | sent names removed _ _ =>
    simp only [Function.update_self, sent]
    exact read_archive io.toListing logs

/-- The receiver of the dump of a debug build reads its two logs. -/
theorem received_logs_debugBuild :
    ∃ (c : Config sig Thread Next Shared) (files : List Extracted),
      ustarRead (c.shared.files.sent 4) = some files ∧
        files.Perm [⟨ascii "diag_poweron_log.qmdl", ascii "boot"⟩, ⟨ascii "ipa_log", []⟩] := by
  have follows : ((service .bytewise debugBuild).follow (configured debugBuild)
      (fun o s => answer debugBuild s.props o)
      [.go .board (.serve (.dumpstateBoard_1_1 (some [3, 4]) .default)), .act .board 4,
        .go .modem .start, .act .modem 100]
      (service.start loggingProps .clean)).map (fun c => (c.prog .modem).value?) =
      some (some (.finished 4)) := by
    decide +kernel
  have logs : debugBuild.steps.map Step.extracted =
      [⟨ascii "diag_poweron_log.qmdl", ascii "boot"⟩, ⟨ascii "ipa_log", []⟩] ∧
      ∀ step ∈ debugBuild.steps, step.name.bytes.length ≤ 100 ∧ step.bytes.length < 8 ^ 11 := by
    decide +kernel
  obtain ⟨c, run, finished⟩ := Machine.exists_follow follows
  rw [← logs.1]
  exact ⟨c, received_logs Io.complete_bytewise (by decide) (by decide) logs.2
    (harmless_clean debugBuild) run (Prog.eq_ret_of_value? finished)⟩

end Service

end Redfin.Dumpstate
