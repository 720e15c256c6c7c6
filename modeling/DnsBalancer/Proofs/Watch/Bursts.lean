import DnsBalancer.Proofs.Duration
import DnsBalancer.Watch.Burst
import Mathlib.Data.List.SplitBy
import Mathlib.Data.List.TakeWhile

/-!
# Changes and their reports

While a watch gathers, it holds the targets of the burst so far, and its timer stands a window
after the last change of it. The next change belongs to the same burst if it comes before that
timer goes off. Timers go off at whole milliseconds, so that a change may still come in time when
the window has just passed; where none does, the gaps between the changes alone tell the bursts.
-/
namespace DnsBalancer

/-- The gap between two changes is less than the window. -/
def Change.near (window : Duration) (a b : Change) : Bool :=
  b.time.since a.time < window

/-- The longest rows of changes that stand together one after the other. -/
def bursts (together : Change → Change → Bool) (cs : List Change) : List (List Change) :=
  cs.splitBy together

/-- The changes are parted into bursts whose neighbours stand together, and none of them could be
longer. -/
structure Bursts (together : Change → Change → Bool) (cs : List Change)
    (parts : List (List Change)) : Prop where
  whole : parts.flatten = cs
  nonempty : ∀ burst ∈ parts, burst ≠ []
  within : ∀ burst ∈ parts, burst.IsChain fun a b => together a b = true
  apart : parts.IsChain fun earlier later =>
    ∀ a ∈ earlier.getLast?, ∀ b ∈ later.head?, together a b = false

theorem bursts_eq_iff {together : Change → Change → Bool} {cs : List Change}
    {parts : List (List Change)} : bursts together cs = parts ↔ Bursts together cs parts := by
  rw [bursts, List.splitBy_eq_iff]
  constructor
  · rintro ⟨whole, nonempty, within, apart⟩
    refine ⟨whole.symm, fun burst member none => nonempty (none ▸ member), within, ?_⟩
    refine apart.imp fun earlier later parted a final b first => ?_
    obtain ⟨some, some', far⟩ := parted
    rwa [List.getLast_of_mem_getLast? final, List.head_of_mem_head? first] at far
  · rintro ⟨whole, nonempty, within, apart⟩
    refine ⟨whole.symm, fun none => nonempty [] none rfl, within, ?_⟩
    refine apart.imp_of_mem_imp fun earlier later member member' far => ?_
    refine ⟨nonempty _ member, nonempty _ member', ?_⟩
    exact far _ (List.getLast_mem_getLast? _) _ (List.head_mem_head? _)

theorem bursts_parted (together : Change → Change → Bool) (cs : List Change) :
    Bursts together cs (bursts together cs) :=
  bursts_eq_iff.mp rfl

namespace Debounce

/-- The targets of a burst, each where it first occurs. -/
def targets (burst : List Change) : List WatchTarget := (burst.map (·.target)).eraseDups

/-- When the last of a burst changed. -/
def quiet (burst : List Change) : Instant := (burst.getLast?.map (·.time)).getD .zero

section

variable (d : Debounce)

/-- When a burst is reported: as its timer goes off, or at the closing if that comes first. -/
def due (closes : Instant) (burst : List Change) : Instant :=
  (d.timer (quiet burst + d.window)).shorter closes

/-- What is reported of a burst. -/
def account (closes : Instant) (burst : List Change) : List Change :=
  (targets burst).map (Change.mk (d.due closes burst))

/-- A burst is being gathered. -/
def gathers (reported burst : List Change) : Watched :=
  ⟨reported, .gathering (targets burst) (d.timer (quiet burst + d.window))⟩

/-- The change comes before the timer that the one before it has set goes off. -/
def joins (a b : Change) : Bool := b.time < d.timer (a.time + d.window)

end

/-! ### What a burst comes to -/

@[simp] theorem quiet_concat (burst : List Change) (c : Change) :
    quiet (burst ++ [c]) = c.time := by
  rw [quiet, List.getLast?_concat]
  rfl

theorem mem_targets {burst : List Change} {target : WatchTarget} :
    target ∈ targets burst ↔ ∃ c ∈ burst, c.target = target := by
  rw [targets, List.mem_eraseDups, List.mem_map]

theorem targets_concat (burst : List Change) (c : Change) :
    targets (burst ++ [c]) = note (targets burst) c.target := by
  have same : (targets burst).contains c.target = (burst.map (·.target)).contains c.target := by
    rw [Bool.eq_iff_iff, List.contains_iff_mem, List.contains_iff_mem, targets, List.mem_eraseDups]
  rw [note, same, targets, List.map_append, List.eraseDups_append, ← targets, List.map_singleton,
    List.cons_removeAll]
  cases (burst.map (·.target)).contains c.target with
  | true => exact List.append_nil _
  | false => rfl

section

variable {d : Debounce} {now closes rings : Instant} {order : List WatchTarget} {next : Watch}
  {out : List Change} {s : Watched} {cs front : List Change} {last c : Change}

/-! ### What a watch makes of it -/

theorem elapse_of_lt (waits : now < rings) :
    d.elapse now ⟨out, .gathering order rings⟩ = ⟨out, .gathering order rings⟩ :=
  if_neg (Nat.not_le.mpr waits)

/-- A change before the timer goes off is one more of the burst. -/
theorem receive_joining (joins : d.joins last c = true) :
    d.receive c.time (d.gathers out (front ++ [last])) (.change c.target) =
      d.gathers out (front ++ [last] ++ [c]) := by
  have waits : c.time < d.timer (last.time + d.window) := of_decide_eq_true joins
  rw [receive, gathers, quiet_concat, elapse_of_lt waits, gathers, targets_concat _ c,
    quiet_concat]
  rfl

variable (attended : ∀ now target, d.attended now target = true)
include attended

/-- What everybody receives is reported whole. -/
theorem report_eq :
    d.report now order next s = ⟨s.reported ++ order.map (Change.mk now), next⟩ := by
  have all : ∀ target ∈ order, d.attended now target = true := fun target _ => attended now target
  rw [report, List.takeWhile_eq_self_iff.mpr all, if_pos (List.all_eq_true.mpr all)]

theorem elapse_of_le (rung : rings ≤ now) :
    d.elapse now ⟨out, .gathering order rings⟩ = ⟨out ++ order.map (Change.mk rings), .idle⟩ :=
  (if_pos rung).trans (report_eq attended)

/-- A later change finds the burst reported, and is the first of the next. -/
theorem receive_parting (upTo : c.time ≤ closes) (parts : d.joins last c = false) :
    d.receive c.time (d.gathers out (front ++ [last])) (.change c.target) =
      d.gathers (out ++ d.account closes (front ++ [last])) [c] := by
  have rung : d.timer (last.time + d.window) ≤ c.time := Nat.le_of_not_lt (of_decide_eq_false parts)
  have due : d.due closes (front ++ [last]) = d.timer (last.time + d.window) := by
    rw [due, quiet_concat]
    exact if_pos (Nat.le_trans rung upTo)
  rw [receive, gathers, quiet_concat, elapse_of_le attended rung, account, due]
  rfl

theorem receive_closed :
    d.receive closes (d.gathers out front) .closed = ⟨out ++ d.account closes front, .ended⟩ := by
  rw [receive, gathers, account, due, Duration.shorter]
  split
  · rename_i rung
    rw [elapse_of_le attended rung]
    rfl
  · rename_i waits
    rw [elapse_of_lt (Nat.lt_of_not_le waits)]
    exact report_eq attended

/-- What comes in after the changes of a burst joins it for as long as it may, and what is then
left makes bursts of its own. -/
theorem run_gathering {together : Change → Change → Bool} (cs front : List Change) (last : Change)
    (out : List Change)
    (agree : (last :: cs).IsChain fun a b => together a b = d.joins a b)
    (one : (front ++ [last]).IsChain fun a b => together a b = true)
    (upTo : ∀ c ∈ cs, c.time ≤ closes) :
    d.receive closes (d.feed cs (d.gathers out (front ++ [last]))) .closed =
      ⟨out ++ (bursts together (front ++ [last] ++ cs)).flatMap (d.account closes), .ended⟩ := by
  unfold bursts
  induction cs generalizing front last out with
  | nil =>
    rw [List.append_nil, List.splitBy_of_isChain (List.concat_ne_nil last front) one,
      List.flatMap_singleton]
    exact receive_closed attended
  | cons c cs ih =>
    obtain ⟨decides, agree⟩ := List.isChain_cons_cons.mp agree
    have later : ∀ c ∈ cs, c.time ≤ closes := fun c member => upTo c (List.mem_cons_of_mem _ member)
    rw [feed, List.foldl_cons, ← feed]
    cases joins : d.joins last c with
    | true =>
      have longer : (front ++ [last] ++ [c]).IsChain fun a b => together a b = true := by
        rw [List.append_assoc]
        exact List.isChain_append_cons_cons.mpr
          ⟨one, decides.trans joins, List.isChain_singleton c⟩
      rw [receive_joining joins, List.append_cons _ c cs]
      exact ih (front ++ [last]) c out agree longer later
    | false =>
      have parted : (front ++ [last] ++ c :: cs).splitBy together =
          (front ++ [last]) :: (c :: cs).splitBy together := by
        rw [List.splitBy_append_cons, List.splitBy_of_isChain (List.concat_ne_nil last front)
          one, List.singleton_append]
        intro a final
        rw [List.getLast?_concat, Option.mem_some_iff] at final
        rw [← final, decides, joins]
      rw [receive_parting attended (upTo c List.mem_cons_self) joins, parted, List.flatMap_cons,
        ← List.append_assoc]
      exact ih [] c _ agree (List.isChain_singleton c) later

theorem run_of_agree {together : Change → Change → Bool}
    (agree : cs.IsChain fun a b => together a b = d.joins a b)
    (upTo : ∀ c ∈ cs, c.time ≤ closes) :
    d.run closes cs = ⟨(bursts together cs).flatMap (d.account closes), .ended⟩ := by
  cases cs with
  | nil => rfl
  | cons c cs =>
    exact run_gathering attended cs [] c [] agree (List.isChain_singleton c)
      fun c member => upTo c (List.mem_cons_of_mem _ member)

theorem run_eq (upTo : ∀ c ∈ cs, c.time ≤ closes) :
    d.run closes cs = ⟨(bursts d.joins cs).flatMap (d.account closes), .ended⟩ := by
  refine run_of_agree attended ?_ upTo
  rw [List.isChain_iff_forall_rel_of_append_cons_cons]
  intro _ _ _ _ _
  rfl

/-- No change ends a watch, as long as its reports are received. -/
theorem watch_feed_ne (cs : List Change) (going : s.watch ≠ .ended) :
    (d.feed cs s).watch ≠ .ended := by
  induction cs generalizing s with
  | nil => exact going
  | cons c cs ih =>
    rw [feed, List.foldl_cons, ← feed]
    apply ih
    obtain ⟨out, watch⟩ := s
    cases watch with
    | idle => exact Watch.noConfusion
    | gathering order rings =>
      rw [receive]
      by_cases rung : rings ≤ c.time
      · rw [elapse_of_le attended rung]
        exact Watch.noConfusion
      · rw [elapse_of_lt (Nat.lt_of_not_le rung)]
        exact Watch.noConfusion
    | ended => exact absurd rfl going

end

/-! ### Timers -/

/-- The changes and the closing come in their order, and none of them just as the timer goes off
that the change before it has set. -/
structure Untied (d : Debounce) (closes : Instant) (cs : List Change) : Prop where
  ordered : (cs.map (·.time) ++ [closes]).Pairwise (· ≤ ·)
  untied : (cs.map (·.time) ++ [closes]).IsChain fun a b => b ≠ d.timer (a + d.window)

/-- Every target finds its receiver, and the timer goes off no earlier than it is set for. -/
structure Timely (d : Debounce) : Prop where
  attended : ∀ now target, d.attended now target = true
  early : ∀ i, i ≤ d.timer i

/-- Timers of whole milliseconds are late at most. -/
theorem timely_default (window : Duration) : Timely { window } where
  attended _ _ := rfl
  early := Duration.le_nextMilli

/-- No change comes when the window has passed and the timer has not gone off. -/
def Punctual (d : Debounce) (cs : List Change) : Prop :=
  cs.IsChain fun a b => a.time + d.window ≤ b.time → d.timer (a.time + d.window) ≤ b.time

/-- None does where timers and changes are at whole milliseconds. -/
theorem punctual_of_onMilli {window : Duration} {cs : List Change}
    (whole : ∀ c ∈ cs, c.time.OnMilli) : Punctual { window } cs := by
  rw [Punctual, List.isChain_iff_forall_rel_of_append_cons_cons]
  intro a b before after split passed
  exact (Duration.nextMilli_le_iff (whole b (by simp [split]))).mpr passed

section

variable {d : Debounce} {closes : Instant} {cs burst : List Change} {c : Change}

theorem Untied.upTo (untied : d.Untied closes cs) (member : c ∈ cs) : c.time ≤ closes :=
  (List.pairwise_append.mp untied.ordered).2.2 _ (List.mem_map_of_mem member) closes
    List.mem_cons_self

theorem Untied.pairwise (untied : d.Untied closes cs) :
    cs.Pairwise fun a b => a.time ≤ b.time :=
  List.pairwise_map.mp (List.pairwise_append.mp untied.ordered).1

/-- Where no change finds the timer late, the gaps between them decide. -/
theorem near_eq_joins (untied : d.Untied closes cs) (timely : d.Timely)
    (punctual : d.Punctual cs) :
    cs.IsChain fun a b => Change.near d.window a b = d.joins a b := by
  have order := untied.pairwise.isChain
  rw [Punctual, List.isChain_iff_forall_rel_of_append_cons_cons] at punctual
  rw [List.isChain_iff_forall_rel_of_append_cons_cons] at order ⊢
  intro a b before after split
  have next := order split
  have early := timely.early (a.time + d.window)
  have late := punctual split
  rw [Change.near, joins, decide_eq_decide]
  simp only [Duration.le_iff, Duration.lt_iff, Duration.nanos_add, Duration.nanos_since] at *
  omega

theorem le_quiet (ordered : burst.Pairwise fun a b => a.time ≤ b.time) (member : c ∈ burst) :
    c.time ≤ quiet burst := by
  obtain rfl | ⟨front, last, rfl⟩ := List.eq_nil_or_concat' burst
  · cases member
  · rw [quiet_concat]
    rcases List.mem_append.mp member with before | final
    · exact (List.pairwise_append.mp ordered).2.2 c before last List.mem_cons_self
    · rw [List.mem_singleton.mp final]
      exact Nat.le_refl _

theorem quiet_le_due (timely : d.Timely) (before : quiet burst + d.window ≤ closes) :
    quiet burst + d.window ≤ d.due closes burst := by
  have early := timely.early (quiet burst + d.window)
  simp only [Duration.le_iff, due, Duration.nanos_shorter] at *
  exact Nat.le_min.mpr ⟨early, before⟩

theorem due_of_closed (timely : d.Timely) (closed : closes < quiet burst + d.window) :
    d.due closes burst = closes := by
  have early := timely.early (quiet burst + d.window)
  exact if_neg (Nat.not_le.mpr (Nat.lt_of_lt_of_le closed early))

/-- The timer goes off before the next burst begins. -/
theorem due_lt_next (untied : d.Untied closes cs) :
    (bursts d.joins cs).IsChain fun earlier later =>
      ∀ b ∈ later.head?, d.due closes earlier < b.time := by
  have parted := bursts_parted d.joins cs
  have apart := parted.apart
  have untied : cs.IsChain fun a b => b.time ≠ d.timer (a.time + d.window) :=
    (List.isChain_map _).mp untied.untied.left_of_append
  rw [List.isChain_iff_forall_rel_of_append_cons_cons] at apart untied ⊢
  intro earlier later before after split b first
  have nonempty : earlier ≠ [] := parted.nonempty earlier (by simp [split])
  obtain ⟨front, a, rfl⟩ := (List.eq_nil_or_concat' earlier).resolve_left nonempty
  obtain ⟨back, rfl⟩ := List.head?_eq_some_iff.mp first
  have joint : cs = before.flatten ++ front ++ a :: b :: (back ++ after.flatten) := by
    rw [← parted.whole, split]
    simp
  have far : d.joins a b = false := apart split a (List.getLast?_concat ..) b first
  have rung : d.timer (a.time + d.window) ≤ b.time := Nat.le_of_not_lt (of_decide_eq_false far)
  have different := untied joint
  simp only [Duration.eq_iff, Duration.le_iff, Duration.lt_iff, due, quiet_concat,
    Duration.nanos_shorter, Ne] at *
  omega

/-- A change is reported with its burst, neither before it nor after the closing. -/
theorem exists_account (untied : d.Untied closes cs) (timely : d.Timely)
    (part : burst ∈ bursts d.joins cs) (member : c ∈ burst) :
    ∃ e ∈ d.account closes burst, e.target = c.target ∧ c.time ≤ e.time ∧ e.time ≤ closes := by
  have parted := bursts_parted d.joins cs
  have within : burst.Sublist cs := by
    rw [← parted.whole]
    exact List.sublist_flatten_of_mem part
  have last := le_quiet (untied.pairwise.sublist within) member
  have early := timely.early (quiet burst + d.window)
  have upTo := untied.upTo (within.subset member)
  refine ⟨⟨d.due closes burst, c.target⟩, ?_, rfl, ?_, ?_⟩
  · exact List.mem_map_of_mem (mem_targets.mpr ⟨c, member, rfl⟩)
  · simp only [Duration.le_iff, due, Duration.nanos_shorter, Duration.nanos_add] at *
    omega
  · simp only [Duration.le_iff, due, Duration.nanos_shorter]
    exact Nat.min_le_right _ _

end

/-- The changes are parted into the longest bursts in which each comes before the timer goes off
that the one before it has set. Burst by burst, each target is reported once, in the order of their
first changes, once the window has passed since the last change and before the next burst begins,
or at the closing if that comes first. The watch ends with the closing and not before, and no change
is left unreported. Where no change comes between the end of a window and its timer, the bursts are
those with gaps below the window. -/
theorem run_bursts (d : Debounce) (closes : Instant) (cs : List Change)
    (untied : d.Untied closes cs) (timely : d.Timely) :
    Bursts d.joins cs (bursts d.joins cs) ∧
    d.run closes cs = ⟨(bursts d.joins cs).flatMap (d.account closes), .ended⟩ ∧
    (∀ burst ∈ bursts d.joins cs,
      (quiet burst + d.window ≤ closes → quiet burst + d.window ≤ d.due closes burst) ∧
      (closes < quiet burst + d.window → d.due closes burst = closes)) ∧
    (bursts d.joins cs).IsChain (fun earlier later =>
      ∀ b ∈ later.head?, d.due closes earlier < b.time) ∧
    (∀ c ∈ cs, ∃ e ∈ (d.run closes cs).reported,
      e.target = c.target ∧ c.time ≤ e.time ∧ e.time ≤ closes) ∧
    (d.feed cs {}).watch ≠ .ended ∧
    (d.Punctual cs → d.run closes cs =
      ⟨(bursts (Change.near d.window) cs).flatMap (d.account closes), .ended⟩) := by
  have parted := bursts_parted d.joins cs
  have upTo : ∀ c ∈ cs, c.time ≤ closes := fun _ member => untied.upTo member
  have ran : d.run closes cs = _ := run_eq timely.attended upTo
  refine ⟨parted, ran, ?_, due_lt_next untied, ?_, ?_, ?_⟩
  · exact fun burst _ => ⟨quiet_le_due timely, due_of_closed timely⟩
  · intro c member
    rw [← parted.whole] at member
    obtain ⟨burst, part, inside⟩ := List.mem_flatten.mp member
    obtain ⟨e, listed, told⟩ := exists_account untied timely part inside
    rw [ran]
    exact ⟨e, List.mem_flatMap.mpr ⟨burst, part, listed⟩, told⟩
  · exact watch_feed_ne timely.attended cs Watch.noConfusion
  · exact fun punctual => run_of_agree timely.attended (near_eq_joins untied timely punctual) upTo

/-- A zone saved twice with the locations in between, the second time between the end of the window
and its timer, and once more just before the end. -/
theorem run_bursts_saved :
    let zone := WatchTarget.zone "example.org." "zone.yml"
    let locations := WatchTarget.locations "locations.yml"
    let cs : List Change := [⟨.zero, zone⟩, ⟨⟨300000⟩, locations⟩, ⟨⟨500500000⟩, zone⟩,
      ⟨.ofMillis 3000, zone⟩]
    let closes := Duration.ofMillis 3100
    Untied {} closes cs ∧ Timely {} ∧ run {} closes cs = ⟨[⟨.ofMillis 1001, zone⟩,
      ⟨.ofMillis 1001, locations⟩, ⟨closes, zone⟩], .ended⟩ := by
  intro zone locations cs closes
  have untied : Untied {} closes cs := ⟨by decide, by decide⟩
  have timely : Timely {} := timely_default _
  refine ⟨untied, timely, ?_⟩
  rw [(run_bursts {} closes cs untied timely).2.1]
  decide

/-- Two changes with more than the window between them, the second of which still comes before the
timer goes off at the next whole millisecond: by the gaps there are two bursts with a report each,
and there is one report. -/
theorem run_bursts_late :
    let zone := WatchTarget.zone "example.org." "zone.yml"
    let cs : List Change := [⟨⟨300000⟩, zone⟩, ⟨⟨500500000⟩, zone⟩]
    let closes := Duration.ofMillis 2000
    (cs.map (·.time) ++ [closes]).IsChain (fun a b => a ≤ b ∧ b.since a ≠ .ofMillis 500) ∧
    ((bursts (Change.near (.ofMillis 500)) cs).flatMap targets = [zone, zone]) ∧
    run {} closes cs = ⟨[⟨.ofMillis 1001, zone⟩], .ended⟩ := by
  decide

end Debounce

end DnsBalancer
