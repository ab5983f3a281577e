import HomeAgents.Proofs.Time.Timestamp
import HomeAgents.Telemetry.Store

/-!
# The latest traces

Rows are put in order by the texts of their timestamps. In the years that have four digits this is
the order of the moments, so the rows that a query takes are those of the latest records, and each
is read back as the record that was saved. A completion in another year cannot be read back, and
then the query fails.
-/

namespace HomeAgents

open Time

/-- The completion, if there is one, is in the years 0 to 9999. -/
def TraceRecord.completesReadably (r : TraceRecord) : Bool :=
  r.completedAt.all fun completion => decide (FourDigitYear completion)

/-- Some of the records, as many as a limit allows, the newest first. None of the others is newer.
-/
structure Newest (limit : Nat) (records shown : List TraceRecord) : Prop where
  length : shown.length = min limit records.length
  ordered : shown.Pairwise fun a b => b.startedAt ≤ a.startedAt
  others : ∃ left, (shown ++ left).Perm records ∧
    ∀ a ∈ shown, ∀ b ∈ left, b.startedAt ≤ a.startedAt

namespace Telemetry

variable {t : Telemetry} {r : TraceRecord} {records : List TraceRecord}

section Save

/-- The rows of the session. -/
def ownRows (t : Telemetry) : List TraceRow :=
  t.traces.filter fun row => row.session = t.session

/-- A record under a number that the session has not used is stored behind its other rows, if it
belongs to the session. -/
theorem ownRows_saveRecord (h : ∀ row ∈ t.ownRows, row.id ≠ r.id) :
    (t.saveRecord r).ownRows = t.ownRows ++ if r.session = t.session then [r.row] else [] := by
  have hkept : (t.traces.filter fun row => row.id ≠ r.id).filter
      (fun row => row.session = t.session) = t.ownRows := by
    rw [List.filter_comm]
    exact List.filter_eq_self.mpr fun row hrow => decide_eq_true (h row hrow)
  have hrow : r.row.session = r.session := rfl
  rw [ownRows, saveRecord, List.filter_append, hkept, List.filter_singleton, hrow]
  by_cases hsession : r.session = t.session <;> simp [hsession]

/-- Records with numbers of their own are all stored, in the order in which they were saved. -/
theorem ownRows_foldl_saveRecord (hids : (records.map (·.id)).Nodup)
    (hunused : ∀ row ∈ t.ownRows, ∀ r ∈ records, row.id ≠ r.id) :
    (records.foldl saveRecord t).ownRows =
      t.ownRows ++ (records.filter fun r => r.session = t.session).map (·.row) := by
  induction records generalizing t with
  | nil => simp
  | cons r records ih =>
    obtain ⟨hid, hids⟩ := List.nodup_cons.mp hids
    have hsaved := ownRows_saveRecord fun row hrow => hunused row hrow r List.mem_cons_self
    have hunused' : ∀ row ∈ (t.saveRecord r).ownRows, ∀ r' ∈ records, row.id ≠ r'.id := by
      intro row hrow r' hr'
      rw [hsaved] at hrow
      rcases List.mem_append.mp hrow with hrow | hrow
      · exact hunused row hrow r' (List.mem_cons_of_mem r hr')
      · split at hrow
        · rw [List.mem_singleton.mp hrow]
          exact fun hsame => hid (List.mem_map.mpr ⟨r', hr', hsame.symm⟩)
        · cases hrow
    have hsession : (t.saveRecord r).session = t.session := rfl
    rw [List.foldl_cons, ih hids hunused', hsaved, hsession, List.filter_cons, List.append_assoc]
    by_cases hr : r.session = t.session <;> simp [hr]

end Save

section Read

/-- A row is read back as the record if the completion is in the years 0 to 9999. -/
theorem record_row (h : FourDigitYear r.startedAt) :
    r.row.record = if r.completesReadably then .ok r else .error .invalid := by
  obtain ⟨id, session, agent, startedAt, completedAt, provider, modelId, request, response,
    latencyMs, error⟩ := r
  have hlatency : (latencyMs.map (·.toInt64)).map (·.toUInt64) = latencyMs := by
    cases latencyMs <;> rfl
  simp only [TraceRow.record, TraceRecord.row, ofTimestamp_timestamp h, hlatency]
  cases completedAt with
  | none => rfl
  | some completion =>
    rw [TraceRecord.completesReadably]
    by_cases hcompletion : FourDigitYear completion
    · simp only [Option.map_some, Option.mapM_some, ofTimestamp_timestamp hcompletion,
        Option.all_some, hcompletion, decide_true]
      rfl
    · simp only [Option.map_some, Option.mapM_some, ofTimestamp_timestamp_of_not hcompletion,
        Option.all_some, hcompletion, decide_false]
      rfl

theorem mapM_record (h : ∀ r ∈ records, FourDigitYear r.startedAt) :
    (records.map (·.row)).mapM (·.record) =
      if records.all (·.completesReadably) then .ok records else .error .invalid := by
  induction records with
  | nil => rfl
  | cons r records ih =>
    obtain ⟨hr, hrecords⟩ := List.forall_mem_cons.mp h
    rw [List.map_cons, List.mapM_cons, record_row hr, ih hrecords, List.all_cons]
    cases r.completesReadably <;> cases records.all (·.completesReadably) <;> rfl

end Read

section Limit

/-- A limit that is too large for a signed number is below zero as one, which is no limit. -/
theorem limited_toInt64 (limit : UInt64) {rows : List TraceRow} (h : rows.length ≤ 2 ^ 63) :
    limited limit.toInt64 rows = rows.take limit.toNat := by
  have hlimit : limit.toInt64.toInt =
      if 2 * limit.toNat < 2 ^ 64 then (limit.toNat : Int) else limit.toNat - 2 ^ 64 :=
    BitVec.toInt_eq_toNat_cond limit.toBitVec
  have hlt : limit.toNat < 2 ^ 64 := limit.toNat_lt
  by_cases hsmall : 2 * limit.toNat < 2 ^ 64
  · rw [if_pos hsmall] at hlimit
    have hnot : ¬ limit.toInt64 < 0 := by
      rw [Int64.lt_iff_toInt_lt, hlimit]
      exact not_lt.mpr (Int.natCast_nonneg _)
    have hnat : limit.toInt64.toNatClampNeg = limit.toNat := congrArg Int.toNat hlimit
    rw [limited, if_neg hnot, hnat]
  · rw [if_neg hsmall] at hlimit
    have hneg : limit.toInt64 < 0 := by
      rw [Int64.lt_iff_toInt_lt, hlimit, Int64.toInt_zero]
      omega
    rw [limited, if_pos hneg, List.take_of_length_le (by omega)]

end Limit

section Latest

/-- Records from the newest to the oldest. -/
def newestFirst (records : List TraceRecord) : List TraceRecord :=
  records.mergeSort fun a b => decide (¬ a.startedAt < b.startedAt)

theorem pairwise_newestFirst (records : List TraceRecord) :
    (newestFirst records).Pairwise fun a b => b.startedAt ≤ a.startedAt := by
  refine (List.pairwise_mergeSort ?_ ?_ records).imp fun h => ?_
  · intro a b c hab hbc
    simp only [decide_eq_true_eq] at hab hbc ⊢
    omega
  · intro a b
    simp only [Bool.or_eq_true, decide_eq_true_eq]
    omega
  · exact not_lt.mp (of_decide_eq_true h)

/-- The rows in the order of their texts are the rows of the records in the order of their moments.
-/
theorem latestRows_eq (hrows : t.ownRows = records.map (·.row))
    (hstarts : ∀ r ∈ records, FourDigitYear r.startedAt) :
    t.latestRows = (newestFirst records).map (·.row) := by
  have hlatest : t.latestRows =
      t.ownRows.mergeSort fun a b => decide (¬ a.startedAt < b.startedAt) := rfl
  rw [hlatest, hrows, newestFirst]
  refine (List.map_mergeSort fun a ha b hb => ?_).symm
  have horder := timestamp_lt_iff (hstarts a ha) (hstarts b hb)
  exact decide_eq_decide.mpr (not_congr horder.symm)

theorem newest_take (limit : Nat) (records : List TraceRecord) :
    Newest limit records ((newestFirst records).take limit) := by
  have hsorted := pairwise_newestFirst records
  have hperm : (newestFirst records).Perm records := List.mergeSort_perm records _
  rw [← List.take_append_drop limit (newestFirst records), List.pairwise_append] at hsorted
  obtain ⟨hshown, -, hleft⟩ := hsorted
  refine ⟨?_, hshown, (newestFirst records).drop limit, ?_, hleft⟩
  · rw [List.length_take, hperm.length_eq]
  · rw [List.take_append_drop]
    exact hperm

/-- What a query for the latest traces gives when these are the session's records. -/
theorem recent_eq (hrows : t.ownRows = records.map (·.row))
    (hstarts : ∀ r ∈ records, FourDigitYear r.startedAt) (hroom : records.length ≤ 2 ^ 63)
    (limit : UInt64) :
    t.recent limit =
      if ((newestFirst records).take limit.toNat).all (·.completesReadably) then
        .ok ((newestFirst records).take limit.toNat)
      else .error .invalid := by
  have hperm : (newestFirst records).Perm records := List.mergeSort_perm records _
  have hlength : ((newestFirst records).map (·.row)).length ≤ 2 ^ 63 := by
    rw [List.length_map, hperm.length_eq]
    exact hroom
  rw [recent, latestRows_eq hrows hstarts, limited_toInt64 limit hlength, ← List.map_take]
  exact mapM_record fun r hr => hstarts r (hperm.mem_iff.mp (List.mem_of_mem_take hr))

/-- A query for the latest traces of a session gives the newest of the records that were saved for
it, each as it was saved, whatever the precision of their moments. If one of these has a completion
outside the years 0 to 9999, the query fails. The database counts its rows with 63 bits. -/
theorem recent_newest (hfresh : ∀ row ∈ t.traces, row.session ≠ t.session)
    (hids : (records.map (·.id)).Nodup) (hstarts : ∀ r ∈ records, FourDigitYear r.startedAt)
    (hroom : records.length ≤ 2 ^ 63) (limit : UInt64) :
    ∃ shown, Newest limit.toNat (records.filter fun r => r.session = t.session) shown ∧
      (records.foldl saveRecord t).recent limit =
        if shown.all (·.completesReadably) then .ok shown else .error .invalid := by
  have hnone : t.ownRows = [] := by
    refine List.filter_eq_nil_iff.mpr fun row hrow => ?_
    simp [hfresh row hrow]
  have hrows := ownRows_foldl_saveRecord (t := t) hids (by simp [hnone])
  rw [hnone, List.nil_append] at hrows
  refine ⟨_, newest_take limit.toNat _, recent_eq hrows ?_ ?_ limit⟩
  · exact fun r hr => hstarts r (List.mem_of_mem_filter hr)
  · exact (List.length_filter_le _ _).trans hroom

/-- A call that is answered half a second after it was made. -/
def callAt (id session : Nat) (startedAt : Int) : TraceRecord where
  id := id
  session := session
  agent := "lights"
  startedAt := startedAt
  completedAt := some (startedAt + 500000000)
  provider := "lm-studio"
  modelId := "qwen"
  request := "[]"
  response := some "done"
  latencyMs := some 500
  error := none

/-- Calls within one second whose timestamps have fractions of all four lengths, and a call of
another session. -/
def callsInOneSecond : List TraceRecord :=
  [callAt 0 0 250500000, callAt 1 0 0, callAt 2 7 900000000, callAt 3 0 250500001,
    callAt 4 0 250000000]

theorem recent_newest_callsInOneSecond :
    (∀ row ∈ (new 0 none none).traces, row.session ≠ (new 0 none none).session) ∧
      (callsInOneSecond.map (·.id)).Nodup ∧
      (∀ r ∈ callsInOneSecond, FourDigitYear r.startedAt) ∧ callsInOneSecond.length ≤ 2 ^ 63 ∧
      ∃ shown, Newest 3 (callsInOneSecond.filter fun r => r.session = 0) shown ∧
        (callsInOneSecond.foldl saveRecord (new 0 none none)).recent 3 = .ok shown := by
  have hstarts : ∀ r ∈ callsInOneSecond, FourDigitYear r.startedAt := by decide
  have hcompletes : ∀ r ∈ callsInOneSecond, r.completesReadably = true := by decide
  obtain ⟨shown, hnewest, hrecent⟩ := recent_newest (t := new 0 none none) nofun
    (show (callsInOneSecond.map (·.id)).Nodup by decide) hstarts (by decide) 3
  obtain ⟨left, hperm, -⟩ := hnewest.others
  have hall : shown.all (·.completesReadably) = true := by
    refine List.all_eq_true.mpr fun r hr => hcompletes r ?_
    exact List.mem_of_mem_filter (hperm.mem_iff.mp (List.mem_append_left left hr))
  rw [if_pos hall] at hrecent
  exact ⟨nofun, by decide, hstarts, by decide, shown, hnewest, hrecent⟩

/-- A call in the last second of the year 9999 that is answered in the year 10000. -/
def lateCall : TraceRecord :=
  callAt 0 0 253402300799500000000

/-- A start in the years 0 to 9999 is not enough for a record to be given back. -/
theorem recent_fails_of_late_completion :
    (∀ row ∈ (new 0 none none).traces, row.session ≠ (new 0 none none).session) ∧
      ([lateCall].map (·.id)).Nodup ∧ (∀ r ∈ [lateCall], FourDigitYear r.startedAt) ∧
      ([lateCall].foldl saveRecord (new 0 none none)).recent 5 = .error .invalid ∧
      ¬ ∃ shown, Newest 5 ([lateCall].filter fun r => r.session = 0) shown ∧
        ([lateCall].foldl saveRecord (new 0 none none)).recent 5 = .ok shown := by
  have hstarts : ∀ r ∈ [lateCall], FourDigitYear r.startedAt := by decide
  have hcompletes : lateCall.completesReadably = false := by decide
  have hrows : ([lateCall].foldl saveRecord (new 0 none none)).ownRows =
      [lateCall].map (·.row) := rfl
  have hfails : ([lateCall].foldl saveRecord (new 0 none none)).recent 5 = .error .invalid := by
    rw [recent_eq hrows hstarts (by decide) 5, newestFirst, List.mergeSort_singleton]
    simp [hcompletes]
  refine ⟨nofun, by decide, hstarts, hfails, ?_⟩
  rintro ⟨shown, -, hshown⟩
  rw [hfails] at hshown
  cases hshown

end Latest

end Telemetry

end HomeAgents
