import DnsBalancer.Probing.Cycle
import DnsBalancer.Proofs.Duration
import Mathlib.Data.List.Forall2

/-!
# The verdict of a cycle

What a cycle reports, read off how long each of its probes takes and how it ends. A probe counts
up to the cutoff and has timed out there; the cycle lasts as long as the probe that counts
longest.
-/
namespace DnsBalancer

/-- A probe as far as a cutoff at `limit` lets it come. -/
def Completion.cut (limit : Duration) (c : Completion) : Completion :=
  if c.after < limit then c else ⟨limit, .failed .timedOut⟩

/-- The fault that is found of a probe when it is cut off at `limit`. -/
def Completion.verdict (limit : Duration) (c : Completion) : Option ProbeFault :=
  if c.after < limit then
    match c.outcome with
    | .passed => none
    | .failed fault => some fault
  else some .timedOut

/-- The report of a cycle whose probes complete so, each by itself, and are cut off at `limit`. -/
structure CycleReport.Judges (r : CycleReport) (limit : Duration) (probes : List Probe)
    (cs : List Completion) : Prop where
  alive : r.alive = true ↔ ∀ c ∈ cs, c.outcome = .passed ∧ c.after < limit
  failures : r.failures = (probes.zip cs).filterMap fun (p, c) =>
    (c.verdict limit).map (p.tag, ·)
  longest : ∀ c ∈ cs, c.after.shorter limit ≤ r.responseTime
  attained : cs = [] ∧ r.responseTime = .zero ∨ ∃ c ∈ cs, c.after.shorter limit = r.responseTime

namespace Completion

variable {limit : Duration} (c : Completion)

theorem verdict_eq_none_iff :
    c.verdict limit = none ↔ c.outcome = .passed ∧ c.after < limit := by
  unfold verdict
  by_cases quick : c.after < limit
  · cases ended : c.outcome <;> simp [quick]
  · simp [quick]

theorem after_cut : (c.cut limit).after = c.after.shorter limit := by
  rw [cut, Duration.eq_iff, Duration.nanos_shorter]
  by_cases quick : c.after < limit
  · rw [if_pos quick, Nat.min_eq_left (Nat.le_of_lt quick)]
  · rw [if_neg quick, Nat.min_eq_right (Nat.not_lt.mp quick)]

theorem fault?_cut (tag : String) :
    (c.cut limit).fault? tag = (c.verdict limit).map (tag, ·) := by
  unfold cut verdict
  by_cases quick : c.after < limit
  · simp only [if_pos quick, fault?]
    cases c.outcome <;> rfl
  · simp only [if_neg quick, fault?]
    rfl

/-- Whatever completes beyond the cutoff has timed out at it. -/
theorem cut_of_le (late : limit ≤ c.after) : c.cut limit = ⟨limit, .failed .timedOut⟩ :=
  if_neg (Nat.not_lt.mpr late)

end Completion

/-- The longest of some durations and a first one. -/
theorem Duration.foldl_longer (ds : List Duration) (d : Duration) :
    d ≤ ds.foldl longer d ∧ (∀ x ∈ ds, x ≤ ds.foldl longer d) ∧
      (ds.foldl longer d = d ∨ ds.foldl longer d ∈ ds) := by
  induction ds generalizing d with
  | nil => simp [Duration.le_iff]
  | cons x ds ih =>
    obtain ⟨first, others, attained⟩ := ih (d.longer x)
    have both : d ≤ d.longer x ∧ x ≤ d.longer x := by
      simp only [Duration.le_iff, nanos_longer]
      omega
    refine ⟨Nat.le_trans both.1 first, List.forall_mem_cons.mpr
      ⟨Nat.le_trans both.2 first, others⟩, ?_⟩
    rcases attained with same | later
    · rw [List.foldl_cons, same]
      unfold longer
      split
      · exact Or.inr List.mem_cons_self
      · exact Or.inl rfl
    · exact Or.inr (List.mem_cons_of_mem x later)

namespace CycleReport

variable {limit : Duration} {probes : List Probe} {cs : List Completion}

/-- The results of probes that were cut off. -/
def judged (limit : Duration) (probes : List Probe) (cs : List Completion) :
    List (String × Completion) :=
  (probes.zip cs).map fun (p, c) => (p.tag, c.cut limit)

theorem judges_ofJudged (each : probes.length = cs.length) :
    (ofJudged (judged limit probes cs)).Judges limit probes cs := by
  have seconds : (probes.zip cs).map Prod.snd = cs := List.map_snd_zip (Nat.le_of_eq each.symm)
  have failures : (ofJudged (judged limit probes cs)).failures =
      (probes.zip cs).filterMap fun (p, c) => (c.verdict limit).map (p.tag, ·) := by
    simp only [ofJudged, judged, List.filterMap_map]
    exact List.filterMap_congr fun (p, c) _ => c.fault?_cut p.tag
  have times : (ofJudged (judged limit probes cs)).responseTime =
      (cs.map (·.after.shorter limit)).foldl Duration.longer .zero := by
    rw [← seconds, List.map_map, List.foldl_map, ofJudged, judged, List.foldl_map]
    simp only [Completion.after_cut, Function.comp_apply, seconds]
  obtain ⟨_, longest, attained⟩ :=
    Duration.foldl_longer (cs.map (·.after.shorter limit)) .zero
  rw [← times] at longest attained
  refine ⟨?_, failures, fun c member => longest _ (List.mem_map_of_mem member), ?_⟩
  · have empty : (ofJudged (judged limit probes cs)).alive =
        (ofJudged (judged limit probes cs)).failures.isEmpty := rfl
    rw [empty, failures, List.isEmpty_iff, List.filterMap_eq_nil_iff]
    conv_rhs => rw [← seconds]
    simp only [List.forall_mem_map, Option.map_eq_none_iff, Completion.verdict_eq_none_iff]
  · rcases attained with zero | member
    · cases cs with
      | nil => exact Or.inl ⟨rfl, zero⟩
      | cons c cs =>
        refine Or.inr ⟨c, List.mem_cons_self, Duration.eq_iff.mpr ?_⟩
        have below := longest _ List.mem_cons_self
        rw [zero] at below ⊢
        exact Nat.le_zero.mp below
    · obtain ⟨c, member, same⟩ := List.mem_map.mp member
      exact Or.inr ⟨c, member, same⟩

/-- The report lasts just as long as one of the probes counts, when none counts longer. -/
theorem Judges.responseTime_eq {r : CycleReport} (judges : r.Judges limit probes cs)
    (span : Duration) (within : ∀ c ∈ cs, c.after.shorter limit ≤ span)
    (reached : cs = [] ∧ span = .zero ∨ ∃ c ∈ cs, c.after.shorter limit = span) :
    r.responseTime = span := by
  rcases judges.attained with ⟨none, zero⟩ | ⟨c, member, lasts⟩
  · rcases reached with ⟨_, same⟩ | ⟨x, present, _⟩
    · exact zero.trans same.symm
    · rw [none] at present
      cases present
  · rcases reached with ⟨none, _⟩ | ⟨x, present, same⟩
    · rw [none] at member
      cases member
    · have below := within c member
      have above := judges.longest x present
      rw [lasts] at below
      rw [same] at above
      exact Duration.eq_iff.mpr (Nat.le_antisymm below above)

end CycleReport

end DnsBalancer
