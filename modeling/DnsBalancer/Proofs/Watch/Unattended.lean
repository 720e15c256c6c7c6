import DnsBalancer.Proofs.Watch.Bursts

/-!
# Reports that nobody receives

The first report without a receiver ends a watch in the middle of its row. What was reported
before is what a receiver that stays would have got. The two watches go step by step together
until then, and from there on the one does nothing.
-/
namespace DnsBalancer.Debounce

section

variable (d : Debounce)

/-- The same watch with a receiver that stays. -/
def attentive : Debounce := { d with attended := fun _ _ => true }

def hears (e : Change) : Bool := d.attended e.time e.target

/-- The one is the other up to its first report that nobody receives, which is its end. -/
structure CutShort (whole cut : Watched) : Prop where
  reported : cut.reported = whole.reported.takeWhile d.hears
  watch : cut.watch = if whole.reported.all d.hears then whole.watch else .ended

end

section

variable {d : Debounce} {now : Instant} {order : List WatchTarget} {next : Watch}
  {whole cut s : Watched} {signal : Signal} {more : List Change}

/-! ### After the end -/

theorem step_ended (past : s.watch = .ended) : d.step now s signal = s := by
  unfold step
  rw [past]

theorem elapse_ended (past : s.watch = .ended) : d.elapse now s = s := by
  unfold elapse
  rw [past]

theorem CutShort.ended (short : d.CutShort whole cut)
    (missed : whole.reported.all d.hears = false) : cut.watch = .ended := by
  rw [short.watch, missed]
  rfl

/-- Once a report was missed it does not matter what else the other reports. -/
theorem CutShort.append (short : d.CutShort whole cut)
    (missed : whole.reported.all d.hears = false) (grown : s.reported = whole.reported ++ more) :
    d.CutShort s cut := by
  constructor
  · rw [grown, short.reported, List.takeWhile_append, if_neg]
    intro full
    have kept := (List.takeWhile_prefix d.hears).eq_of_length full
    rw [List.all_eq_true.mpr (List.takeWhile_eq_self_iff.mp kept)] at missed
    cases missed
  · rw [grown, short.ended missed, List.all_append, missed]
    rfl

/-! ### Until then -/

theorem cutShort_self (heard : s.reported.all d.hears = true) : d.CutShort s s where
  reported := (List.takeWhile_eq_self_iff.mpr (List.all_eq_true.mp heard)).symm
  watch := (if_pos heard).symm

theorem CutShort.eq_of_heard (short : d.CutShort whole cut)
    (heard : whole.reported.all d.hears = true) : cut = whole := by
  have reported := short.reported.trans (cutShort_self heard).reported.symm
  have watch := short.watch.trans (cutShort_self heard).watch.symm
  cases whole
  cases cut
  cases reported
  cases watch
  rfl

theorem cutShort_report (heard : s.reported.all d.hears = true) :
    d.CutShort (d.attentive.report now order next s) (d.report now order next s) := by
  have whole : d.attentive.report now order next s =
      ⟨s.reported ++ order.map (Change.mk now), next⟩ := report_eq fun _ _ => rfl
  rw [whole]
  constructor
  · rw [List.takeWhile_append, ← (cutShort_self heard).reported, if_pos rfl, List.takeWhile_map]
    rfl
  · rw [List.all_append, heard, List.all_map]
    rfl

/-! ### From step to step -/

theorem reported_step : ∃ more, (d.step now s signal).reported = s.reported ++ more := by
  obtain ⟨out, watch⟩ := s
  cases watch with
  | idle => cases signal <;> exact ⟨[], (List.append_nil out).symm⟩
  | gathering order rings =>
    cases signal with
    | change target => exact ⟨[], (List.append_nil out).symm⟩
    | silence => exact ⟨_, rfl⟩
    | closed => exact ⟨_, rfl⟩
  | ended => exact ⟨[], (List.append_nil out).symm⟩

theorem CutShort.step (short : d.CutShort whole cut) :
    d.CutShort (d.attentive.step now whole signal) (d.step now cut signal) := by
  cases heard : whole.reported.all d.hears with
  | true =>
    rw [short.eq_of_heard heard]
    obtain ⟨out, watch⟩ := whole
    cases watch with
    | idle => cases signal <;> exact cutShort_self heard
    | gathering order rings =>
      cases signal with
      | change target => exact cutShort_self heard
      | silence => exact cutShort_report heard
      | closed => exact cutShort_report heard
    | ended => exact cutShort_self heard
  | false =>
    obtain ⟨more, grown⟩ : ∃ more, (d.attentive.step now whole signal).reported =
      whole.reported ++ more := reported_step
    rw [step_ended (short.ended heard)]
    exact short.append heard grown

theorem CutShort.elapse (short : d.CutShort whole cut) :
    d.CutShort (d.attentive.elapse now whole) (d.elapse now cut) := by
  cases heard : whole.reported.all d.hears with
  | true =>
    have same := cutShort_self heard
    rw [short.eq_of_heard heard]
    unfold Debounce.elapse
    split
    · split
      · exact same.step
      · exact same
    · exact same
    · exact same
  | false =>
    have past := short.ended heard
    rw [elapse_ended past]
    unfold Debounce.elapse
    split
    · split
      · rename_i rings _ _
        have next : d.CutShort _ (d.step rings cut .silence) := short.step
        rwa [step_ended past] at next
      · exact short
    · exact short
    · exact short

theorem CutShort.receive (short : d.CutShort whole cut) :
    d.CutShort (d.attentive.receive now whole signal) (d.receive now cut signal) :=
  short.elapse.step

theorem CutShort.feed (cs : List Change) (short : d.CutShort whole cut) :
    d.CutShort (d.attentive.feed cs whole) (d.feed cs cut) := by
  induction cs generalizing whole cut with
  | nil => exact short
  | cons c cs ih => exact ih short.receive

theorem run_cutShort (d : Debounce) (closes : Instant) (cs : List Change) :
    d.CutShort (d.attentive.run closes cs) (d.run closes cs) :=
  ((cutShort_self rfl).feed cs).receive

/-- The bursts are reported up to the first report that nobody receives. -/
theorem run_unattended {closes : Instant} {cs : List Change} (upTo : ∀ c ∈ cs, c.time ≤ closes) :
    (d.run closes cs).reported =
        ((bursts d.joins cs).flatMap (d.account closes)).takeWhile d.hears ∧
      (d.run closes cs).watch = .ended := by
  have whole : d.attentive.run closes cs =
      ⟨(bursts d.joins cs).flatMap (d.account closes), .ended⟩ := run_eq (fun _ _ => rfl) upTo
  obtain ⟨reported, watch⟩ := run_cutShort d closes cs
  rw [whole] at reported watch
  exact ⟨reported, watch.trans (ite_self _)⟩

end

end DnsBalancer.Debounce
