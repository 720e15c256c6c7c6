import DnsBalancer.Check.Params
import DnsBalancer.Proofs.Yaml.Fields

/-!
# Parameters in any order

The parameters of a check are the same in whatever order they are written, and so are its headers,
as long as no two of them go by one name.
-/
namespace DnsBalancer

open Yaml (Value)

section

variable {es fs : List (Value × Value)}

theorem TcpParams.ofValue?_of_perm (perm : es.Perm fs) :
    TcpParams.ofValue? (.mapping es) = TcpParams.ofValue? (.mapping fs) := by
  unfold TcpParams.ofValue?
  have fields := Value.fields?_of_perm perm ["port", "timeout"]
  generalize (Value.mapping es).fields? _ = as, (Value.mapping fs).fields? _ = bs at fields ⊢
  cases fields with
  | none => rfl
  | some same =>
    simp only [List.forall_mem_cons] at same
    obtain ⟨port, timeout, _⟩ := same
    simp only [Option.bind_eq_bind, Option.bind_some, Value.required?, Value.defaulted?, port,
      timeout]

theorem HttpParams.ofValue?_of_perm (perm : es.Perm fs) :
    HttpParams.ofValue? (.mapping es) = HttpParams.ofValue? (.mapping fs) := by
  unfold HttpParams.ofValue?
  have fields := Value.fields?_of_perm perm ["port", "enable_tls", "uri", "method", "host",
    "headers", "timeout", "expected_code", "expected_body", "skip_tls_verify"]
  generalize (Value.mapping es).fields? _ = as, (Value.mapping fs).fields? _ = bs at fields ⊢
  cases fields with
  | none => rfl
  | some same =>
    simp only [List.forall_mem_cons] at same
    obtain ⟨port, tls, uri, method, host, headers, timeout, code, body, skip, _⟩ := same
    simp only [Option.bind_eq_bind, Option.bind_some, Value.defaulted?, port, tls, uri, method,
      host, headers, timeout, code, body, skip]

end

/-! ### Headers -/

theorem perm_insertHeader {name value : String} {hs : List (String × String)}
    (fresh : name ∉ hs.map (·.1)) : (insertHeader name value hs).Perm ((name, value) :: hs) := by
  induction hs with
  | nil => exact .refl _
  | cons h hs ih =>
    obtain ⟨n, v⟩ := h
    rw [List.map_cons, List.mem_cons, not_or] at fresh
    rw [insertHeader]
    split
    · exact .refl _
    split
    · rename_i same
      exact absurd (beq_iff_eq.mp same).symm fresh.1
    · exact ((ih fresh.2).cons (n, v)).trans (.swap (name, value) (n, v) hs)

theorem mem_insertHeader {name value : String} {h : String × String} {hs : List (String × String)}
    (member : h ∈ insertHeader name value hs) : h = (name, value) ∨ h ∈ hs := by
  induction hs with
  | nil => exact Or.inl (List.mem_singleton.mp member)
  | cons g hs ih =>
    obtain ⟨n, v⟩ := g
    rw [insertHeader] at member
    split at member
    · exact List.mem_cons.mp member
    split at member
    · exact (List.mem_cons.mp member).imp_right (List.mem_cons_of_mem _)
    · rcases List.mem_cons.mp member with rfl | later
      · exact Or.inr List.mem_cons_self
      · exact (ih later).imp_right (List.mem_cons_of_mem _)

theorem pairwise_insertHeader (name value : String) {hs : List (String × String)}
    (sorted : hs.Pairwise (·.1 < ·.1)) : (insertHeader name value hs).Pairwise (·.1 < ·.1) := by
  induction hs with
  | nil => exact List.pairwise_singleton _ _
  | cons h hs ih =>
    obtain ⟨n, v⟩ := h
    obtain ⟨below, rest⟩ := List.pairwise_cons.mp sorted
    rw [insertHeader]
    split
    · rename_i before
      refine List.pairwise_cons.mpr ⟨fun e member => ?_, sorted⟩
      rcases List.mem_cons.mp member with rfl | later
      · exact before
      · exact String.lt_trans before (below e later)
    split
    · rename_i same
      obtain rfl := beq_iff_eq.mp same
      exact List.pairwise_cons.mpr ⟨below, rest⟩
    · rename_i notBefore different
      refine List.pairwise_cons.mpr ⟨fun e member => ?_, ih rest⟩
      rcases mem_insertHeader member with rfl | later
      · exact Std.lt_of_le_of_ne (String.not_lt.mp notBefore) (by simpa using different)
      · exact below e later

/-- Puts headers in their places one after another. -/
def putHeaders (hs ts : List (String × String)) : List (String × String) :=
  ts.foldl (fun hs t => insertHeader t.1 t.2 hs) hs

/-- Headers under names of their own are kept, in order. -/
theorem putHeaders_spec {ts hs : List (String × String)} (sorted : hs.Pairwise (·.1 < ·.1))
    (fresh : ((ts ++ hs).map (·.1)).Nodup) :
    (putHeaders hs ts).Perm (ts ++ hs) ∧ (putHeaders hs ts).Pairwise (·.1 < ·.1) := by
  induction ts generalizing hs with
  | nil => exact ⟨.refl _, sorted⟩
  | cons t ts ih =>
    rw [List.cons_append, List.map_cons, List.nodup_cons] at fresh
    obtain ⟨unseen, rest⟩ := fresh
    have put : (insertHeader t.1 t.2 hs).Perm (t :: hs) :=
      perm_insertHeader fun member => unseen (by
        rw [List.map_append]
        exact List.mem_append_right _ member)
    have moved : (ts ++ insertHeader t.1 t.2 hs).Perm (t :: (ts ++ hs)) :=
      (put.append_left ts).trans List.perm_middle
    obtain ⟨perm, ordered⟩ := ih (pairwise_insertHeader t.1 t.2 sorted)
      ((moved.map (·.1)).nodup_iff.mpr (List.nodup_cons.mpr ⟨unseen, rest⟩))
    exact ⟨perm.trans moved, ordered⟩

theorem putHeaders_of_perm {ts us : List (String × String)} (perm : ts.Perm us)
    (distinct : (ts.map (·.1)).Nodup) : putHeaders [] ts = putHeaders [] us := by
  have other : (us.map (·.1)).Nodup := (perm.map (·.1)).nodup_iff.mp distinct
  obtain ⟨first, sorted⟩ := @putHeaders_spec ts [] .nil (by rwa [List.append_nil])
  obtain ⟨second, ordered⟩ := @putHeaders_spec us [] .nil (by rwa [List.append_nil])
  rw [List.append_nil] at first second
  refine List.Perm.eq_of_pairwise ?_ sorted ordered ((first.trans perm).trans second.symm)
  exact fun a b _ _ before after => absurd after (String.lt_asymm before)

namespace HttpParams

/-- The values of headers, which have to be text. -/
def headerTexts? (es : List (String × Value)) : Option (List (String × String)) :=
  es.mapM fun e => (e.2.text?).map (e.1, ·)

/-- It makes no difference that every header is read before any is put in its place. -/
theorem headers?_eq (v : Value) :
    headers? v = (v.entries?).bind fun es => (headerTexts? es).map (putHeaders []) := by
  have walk (es : List (String × Value)) (hs : List (String × String)) :
      es.foldlM (fun hs e => (e.2.text?).map (insertHeader e.1 · hs)) hs =
        (headerTexts? es).map (putHeaders hs) := by
    induction es generalizing hs with
    | nil => rfl
    | cons e es ih =>
      rw [headerTexts?, List.foldlM_cons, List.mapM_cons, ← headerTexts?]
      cases e.2.text? with
      | none => rfl
      | some t =>
        simp only [Option.map_some, Option.bind_eq_bind, Option.bind_some, ih]
        cases headerTexts? es <;> rfl
  rw [headers?]
  exact congrArg _ (funext fun es => walk es [])

theorem names_headerTexts? {es : List (String × Value)} {ts : List (String × String)}
    (read : headerTexts? es = some ts) : ts.map (·.1) = es.map (·.1) := by
  induction es generalizing ts with
  | nil =>
    obtain rfl := Option.some.inj read
    rfl
  | cons e es ih =>
    rw [headerTexts?, List.mapM_cons] at read
    obtain ⟨t, first, read⟩ := Option.bind_eq_some_iff.mp read
    obtain ⟨rest, later, read⟩ := Option.bind_eq_some_iff.mp read
    obtain rfl := Option.some.inj read
    obtain ⟨_, _, rfl⟩ := Option.map_eq_some_iff.mp first
    rw [List.map_cons, List.map_cons, ih later]

/-- Headers whose names are told apart are the same in any order. -/
theorem headers?_of_perm {es fs : List (Value × Value)} (perm : es.Perm fs)
    (distinct : ∀ as, (Value.mapping es).entries? = some as → (as.map (·.1)).Nodup) :
    headers? (.mapping es) = headers? (.mapping fs) := by
  rw [headers?_eq, headers?_eq]
  have entries := Value.entries?_of_perm perm
  generalize (Value.mapping es).entries? = as, (Value.mapping fs).entries? = bs
    at entries distinct ⊢
  cases entries with
  | none => rfl
  | @some as bs same =>
    have texts : Option.Rel List.Perm (headerTexts? as) (headerTexts? bs) :=
      Value.rel_mapM_of_perm same
    rw [Option.bind_some, Option.bind_some]
    cases read : headerTexts? as with
    | none =>
      rw [read] at texts
      generalize headerTexts? bs = other at texts ⊢
      cases texts
      rfl
    | some ts =>
      rw [read] at texts
      generalize headerTexts? bs = other at texts ⊢
      obtain ⟨moved⟩ := texts
      have names : (ts.map (·.1)).Nodup := names_headerTexts? read ▸ distinct as rfl
      rw [Option.map_some, Option.map_some, putHeaders_of_perm moved names]

/-- Of the headers counts only what they are read as. -/
theorem ofValue?_of_headers {before after : List (Value × Value)} {v w : Value}
    (same : headers? v = headers? w) :
    ofValue? (.mapping (before ++ (.string "headers", v) :: after)) =
      ofValue? (.mapping (before ++ (.string "headers", w) :: after)) := by
  unfold ofValue?
  have fields := Value.fields?_of_replaced ["port", "enable_tls", "uri", "method", "host",
    "headers", "timeout", "expected_code", "expected_body", "skip_tls_verify"] "headers" before
    after v w
  generalize (Value.mapping (before ++ (.string "headers", v) :: after)).fields? _ = as,
    (Value.mapping (before ++ (.string "headers", w) :: after)).fields? _ = bs at fields ⊢
  cases fields with
  | none => rfl
  | some related =>
    obtain ⟨first, second⟩ := related.1 (by decide)
    have others := related.2
    simp only [Option.bind_eq_bind, Option.bind_some, Value.defaulted?, first, second, same,
      others "port" (by decide), others "enable_tls" (by decide), others "uri" (by decide),
      others "method" (by decide), others "host" (by decide), others "timeout" (by decide),
      others "expected_code" (by decide), others "expected_body" (by decide),
      others "skip_tls_verify" (by decide)]

end HttpParams

theorem TcpParams.ofValue?_of_headers (before after : List (Value × Value)) (v w : Value) :
    ofValue? (.mapping (before ++ (.string "headers", v) :: after)) =
      ofValue? (.mapping (before ++ (.string "headers", w) :: after)) := by
  unfold ofValue?
  have fields := Value.fields?_of_replaced ["port", "timeout"] "headers" before after v w
  generalize (Value.mapping (before ++ (.string "headers", v) :: after)).fields? _ = as,
    (Value.mapping (before ++ (.string "headers", w) :: after)).fields? _ = bs at fields ⊢
  cases fields with
  | none => rfl
  | some related =>
    simp only [Option.bind_eq_bind, Option.bind_some, Value.required?, Value.defaulted?,
      related.2 "port" (by decide), related.2 "timeout" (by decide)]

end DnsBalancer
