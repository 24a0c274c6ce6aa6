import MockProvider.Proofs.Dict.Lookup
import MockProvider.Proofs.Matching.Closeness
import MockProvider.Server.Basic

/-!
# Verdicts on whole runs

A server handles requests one after another. `handle_eq` says what one request leads to: it is
counted, and it leaves a record unless it is answered as a browser's question for permission. By
induction `run_eq` says what a whole run leads to, and from it follow the verdict, the counts, and
what the order of the requests does not change: `run_verdict`.

Where arithmetic is checked the selection may stop for a request. Then it is counted and leaves
nothing else, as if the others had come alone: `runChecked_eq_run`.
-/

namespace MockProvider

/-! ## Counting -/

namespace Assoc

theorem get?_eq_none_of_lt {key : String} {entries : List (String × α)}
    (h : ∀ entry ∈ entries, key < entry.1) : get? entries key = none := by
  rw [get?_eq_none_iff]
  intro hmem
  obtain ⟨entry, hentry, heq⟩ := List.mem_map.1 hmem
  exact String.lt_irrefl key (heq ▸ h entry hentry)

/-- The values of all keys together. -/
def sum : List (String × Nat) → Nat
  | [] => 0
  | (_, value) :: rest => value + sum rest

/-- A value that is put in takes the place of the one that was there. -/
theorem sum_insert {entries : List (String × Nat)} (h : Ascending entries) (key : String)
    (value : Nat) :
    sum (insert key value entries) + (get? entries key).getD 0 = sum entries + value := by
  induction entries with
  | nil => simp [insert, sum]
  | cons entry rest ih =>
    obtain ⟨k, v⟩ := entry
    obtain ⟨hk, hrest⟩ := List.pairwise_cons.1 h
    simp only [insert]
    split
    · next hlt =>
      have hnone : get? ((k, v) :: rest) key = none := by
        apply get?_eq_none_of_lt
        intro entry hentry
        rcases List.mem_cons.1 hentry with rfl | hentry
        · exact hlt
        · exact String.lt_trans hlt (hk entry hentry)
      simp only [hnone, sum, Option.getD_none]
      omega
    · split
      · next heq =>
        simp only [get?_cons, heq, if_true, sum, Option.getD_some]
        omega
      · next hne =>
        have hother : ¬ k = key := fun he => hne he.symm
        simp only [get?_cons, hother, if_false, sum]
        have hsum := ih hrest
        omega

end Assoc

namespace Metrics

/-- The requests of all paths together. -/
def sumByPath (m : Metrics) : Nat :=
  Assoc.sum m.byPath.toList

theorem total_count (m : Metrics) (path : String) : (m.count path).total = m.total + 1 := rfl

theorem sumByPath_count (m : Metrics) (path : String) :
    (m.count path).sumByPath = m.sumByPath + 1 := by
  have hsum := Assoc.sum_insert m.byPath.ascending path ((m.byPath.get? path).getD 0 + 1)
  change (m.count path).sumByPath + (m.byPath.get? path).getD 0 = m.sumByPath + _ at hsum
  omega

theorem get?_count (m : Metrics) (path other : String) :
    (m.count path).byPath.get? other =
      if path = other then some ((m.byPath.get? path).getD 0 + 1) else m.byPath.get? other :=
  Dict.get?_insert m.byPath path other _

/-- The counts after requests for paths, one after another. -/
def countAll (m : Metrics) (paths : List String) : Metrics :=
  paths.foldl count m

/-- A measure that every request raises by one is raised by the number of requests. -/
theorem measure_countAll {measure : Metrics → Nat}
    (h : ∀ m path, measure (count m path) = measure m + 1) (m : Metrics) (paths : List String) :
    measure (m.countAll paths) = measure m + paths.length := by
  induction paths generalizing m with
  | nil => rfl
  | cons path paths ih =>
    have hrest := ih (m.count path)
    rw [h] at hrest
    rw [List.length_cons]
    change measure ((m.count path).countAll paths) = _
    omega

theorem total_countAll (m : Metrics) (paths : List String) :
    (m.countAll paths).total = m.total + paths.length :=
  measure_countAll total_count m paths

theorem sumByPath_countAll (m : Metrics) (paths : List String) :
    (m.countAll paths).sumByPath = m.sumByPath + paths.length :=
  measure_countAll sumByPath_count m paths

/-- Each path has as many requests more as were made for it. -/
theorem get?_countAll (m : Metrics) (paths : List String) (other : String) :
    (m.countAll paths).byPath.get? other =
      if other ∈ paths then some ((m.byPath.get? other).getD 0 + paths.count other)
      else m.byPath.get? other := by
  induction paths generalizing m with
  | nil => rfl
  | cons path paths ih =>
    change ((m.count path).countAll paths).byPath.get? other = _
    rw [ih, get?_count]
    by_cases hpath : path = other
    · subst hpath
      by_cases hmem : path ∈ paths
      · simp only [hmem, if_true, List.mem_cons, true_or, List.count_cons_self, Option.getD_some,
          Option.some.injEq]
        omega
      · simp [hmem, List.count_eq_zero_of_not_mem]
    · have hother : ¬ other = path := fun he => hpath he.symm
      simp [hpath, hother]

/-- The order of the requests does not matter for the counts. -/
theorem countAll_perm (m : Metrics) {paths paths' : List String} (h : paths.Perm paths') :
    m.countAll paths = m.countAll paths' := by
  have htotal : (m.countAll paths).total = (m.countAll paths').total := by
    rw [total_countAll, total_countAll, h.length_eq]
  have hbyPath : (m.countAll paths).byPath = (m.countAll paths').byPath := by
    apply Dict.ext_get?
    intro path
    simp only [get?_countAll, h.mem_iff, h.count_eq]
  calc m.countAll paths = ⟨(m.countAll paths).total, (m.countAll paths).byPath⟩ := rfl
    _ = m.countAll paths' := by rw [htotal, hbyPath]

end Metrics

/-! ## Reports -/

theorem Selection.isMatch_iff {outcome : Selection} :
    outcome.isMatch = true ↔ ∃ index, outcome = .matched index := by
  cases outcome <;> simp [isMatch]

namespace ReportEntry

/-- Whether an entry is about an interaction that was not asked for, and not about a request. -/
def isMissing : ReportEntry → Bool
  | .missingRequest .. => true
  | _ => false

theorem ofRecord?_eq_none_iff {c : Contract} {record : Record} :
    ofRecord? c record = none ↔ record.outcome.isMatch = true := by
  rw [ofRecord?]
  cases record.outcome <;> simp [Selection.isMatch]

theorem isMissing_of_ofRecord? {c : Contract} {record : Record} {entry : ReportEntry}
    (h : ofRecord? c record = some entry) : entry.isMissing = false := by
  simp only [ofRecord?] at h
  split at h
  · cases h
  · cases h
    rfl
  · cases h
    rfl

theorem isMissing_of_mem_missing {ascribed : List Nat} {position : Nat} {is : List Interaction}
    {entry : ReportEntry} (h : entry ∈ missing ascribed position is) : entry.isMissing = true := by
  induction is generalizing position with
  | nil => cases h
  | cons i is ih =>
    simp only [missing] at h
    split at h
    · exact ih h
    · rcases List.mem_cons.1 h with rfl | h
      · rfl
      · exact ih h

/-- Nothing is missing when a request was ascribed to every interaction. -/
theorem missing_eq_nil_iff {ascribed : List Nat} {position : Nat} {is : List Interaction} :
    missing ascribed position is = [] ↔ ∀ index < is.length, position + index ∈ ascribed := by
  induction is generalizing position with
  | nil => simp [missing]
  | cons i is ih =>
    have hlater : (∀ index < is.length, position + 1 + index ∈ ascribed) ↔
        ∀ index, index + 1 < (i :: is).length → position + (index + 1) ∈ ascribed := by
      simp only [List.length_cons, Nat.add_lt_add_iff_right, Nat.add_assoc, Nat.add_comm 1]
    simp only [missing, List.contains_iff_mem]
    split
    · next hmem =>
      rw [ih, hlater]
      constructor
      · intro h index hindex
        cases index with
        | zero => exact hmem
        | succ index => exact h index hindex
      · exact fun h index hindex => h (index + 1) hindex
    · next hmem =>
      constructor
      · intro h
        cases h
      · exact fun h => absurd (h 0 (Nat.succ_pos _)) hmem

theorem missing_congr {ascribed ascribed' : List Nat}
    (h : ∀ index, index ∈ ascribed ↔ index ∈ ascribed') (position : Nat) (is : List Interaction) :
    missing ascribed position is = missing ascribed' position is := by
  induction is generalizing position with
  | nil => rfl
  | cons i is ih => simp only [missing, List.contains_iff_mem, h, ih]

/-- The interactions that records are ascribed to, matching or not. -/
def ascribed (records : List Record) : List Nat :=
  records.filterMap fun record => record.outcome.index?

theorem report_eq (c : Contract) (records : List Record) :
    report c records =
      records.filterMap (ofRecord? c) ++ missing (ascribed records) 0 c.interactions := rfl

theorem filter_isMissing_report (c : Contract) (records : List Record) :
    (report c records).filter isMissing = missing (ascribed records) 0 c.interactions := by
  have hrecords : (records.filterMap (ofRecord? c)).filter isMissing = [] := by
    apply List.filter_eq_nil_iff.2
    intro entry hentry
    obtain ⟨record, -, hrecord⟩ := List.mem_filterMap.1 hentry
    simp [isMissing_of_ofRecord? hrecord]
  have hmissing : (missing (ascribed records) 0 c.interactions).filter isMissing =
      missing (ascribed records) 0 c.interactions :=
    List.filter_eq_self.2 fun entry hentry => isMissing_of_mem_missing hentry
  rw [report_eq, List.filter_append, hrecords, hmissing, List.nil_append]

theorem filter_not_isMissing_report (c : Contract) (records : List Record) :
    (report c records).filter (!isMissing ·) = records.filterMap (ofRecord? c) := by
  have hrecords : (records.filterMap (ofRecord? c)).filter (!isMissing ·) =
      records.filterMap (ofRecord? c) := by
    apply List.filter_eq_self.2
    intro entry hentry
    obtain ⟨record, -, hrecord⟩ := List.mem_filterMap.1 hentry
    simp [isMissing_of_ofRecord? hrecord]
  have hmissing : (missing (ascribed records) 0 c.interactions).filter (!isMissing ·) = [] := by
    apply List.filter_eq_nil_iff.2
    intro entry hentry
    simp [isMissing_of_mem_missing hentry]
  rw [report_eq, List.filter_append, hrecords, hmissing, List.append_nil]

/-- A report is empty when all requests matched and every interaction was matched. Requests that
    did not match are ascribed to interactions too, but then they are in the report themselves. -/
theorem report_eq_nil_iff {c : Contract} {records : List Record} :
    report c records = [] ↔ (∀ record ∈ records, record.outcome.isMatch = true) ∧
      ∀ index < c.interactions.length, ∃ record ∈ records, record.outcome = .matched index := by
  rw [report_eq, List.append_eq_nil_iff, List.filterMap_eq_nil_iff, missing_eq_nil_iff]
  simp only [ofRecord?_eq_none_iff, Nat.zero_add, ascribed, List.mem_filterMap]
  apply and_congr_right
  intro hmatch
  -- all outcomes are matches now, and a match is ascribed to the interaction that it names
  have hindex : ∀ record ∈ records, ∀ index,
      record.outcome.index? = some index ↔ record.outcome = .matched index := by
    intro record hrecord index
    obtain ⟨found, hfound⟩ := Selection.isMatch_iff.1 (hmatch record hrecord)
    simp [hfound, Selection.index?]
  constructor
  · intro h index hlt
    obtain ⟨record, hrecord, heq⟩ := h index hlt
    exact ⟨record, hrecord, (hindex record hrecord index).1 heq⟩
  · intro h index hlt
    obtain ⟨record, hrecord, heq⟩ := h index hlt
    exact ⟨record, hrecord, (hindex record hrecord index).2 heq⟩

end ReportEntry

/-! ## Requests -/

namespace Server

/-- Whether a request is answered as a browser's question for permission: such questions are
    answered at all, the request has their method, and no interaction matches it. -/
def isPreflight (contract : Contract) (config : Config) (a : Arrival) : Bool :=
  config.corsPreflight && a.method == "OPTIONS" && !(contract.select a.toRequest).isMatch

/-- The record of a request. -/
def recordOf (contract : Contract) (a : Arrival) : Record :=
  ⟨a.toRequest, contract.select a.toRequest⟩

def permission (a : Arrival) : Reply :=
  .preflight (a.shownHeader? "origin") (a.shownHeader? "access-control-request-headers")

def refusal (word : String) (request : Request) (mismatches : List Mismatch) : Reply :=
  .ofMismatches (word ++ " : " ++ request.method ++ " " ++ request.path) mismatches

/-- The reply to a request that leaves a record. -/
def verdictReply (s : Server) (a : Arrival) : Reply :=
  match s.contract.select a.toRequest with
  | .matched index => .ofResponse (s.responseAt index)
  | .closest _ mismatches => refusal "Request-Mismatch" a.toRequest mismatches
  | .notFound => refusal "Unexpected-Request" a.toRequest []

theorem refuse_eq (s : Server) (a : Arrival) (request : Request) (outcome : Selection)
    (word : String) (mismatches : List Mismatch) :
    s.refuse a request outcome word mismatches =
      if s.config.corsPreflight && a.method == "OPTIONS" then ⟨permission a, s⟩
      else ⟨refusal word request mismatches, s.record request outcome⟩ := by
  rw [refuse, preflight?]
  cases s.config.corsPreflight && a.method == "OPTIONS" <;> rfl

/-- The server after a request was counted. -/
def counted (s : Server) (a : Arrival) : Server :=
  { s with metrics := s.metrics.count a.toRequest.path }

/-- What a request leads to. -/
theorem handle_eq (s : Server) (a : Arrival) :
    s.handle a =
      if isPreflight s.contract s.config a then ⟨permission a, s.counted a⟩
      else
        ⟨s.verdictReply a,
          { s.counted a with records := s.records ++ [recordOf s.contract a] }⟩ := by
  simp only [handle, isPreflight, verdictReply, recordOf, refuse_eq]
  -- a match is never refused; the other outcomes are refused in the same way
  split
  · next index houtcome => simp [houtcome, Selection.isMatch, record, counted]
  · next index mismatches houtcome =>
    simp only [houtcome, Selection.isMatch, Bool.not_false, Bool.and_true]
    rfl
  · next houtcome =>
    simp only [houtcome, Selection.isMatch, Bool.not_false, Bool.and_true]
    rfl

/-! ## Runs -/

/-- The server after requests that were handled one after another. -/
def run (s : Server) (arrivals : List Arrival) : Server :=
  arrivals.foldl (fun s a => (s.handle a).server) s

/-- The records that requests leave. -/
def recordsOf (contract : Contract) (config : Config) (arrivals : List Arrival) : List Record :=
  (arrivals.filter (!isPreflight contract config ·)).map (recordOf contract)

/-- What a run leads to. -/
theorem run_eq (s : Server) (arrivals : List Arrival) :
    s.run arrivals =
      { s with
        records := s.records ++ recordsOf s.contract s.config arrivals
        metrics := s.metrics.countAll (arrivals.map fun a => a.toRequest.path) } := by
  induction arrivals generalizing s with
  | nil => simp [run, recordsOf, Metrics.countAll]
  | cons a arrivals ih =>
    change (s.handle a).server.run arrivals = _
    rw [ih, handle_eq]
    cases h : isPreflight s.contract s.config a with
    | true => simp [recordsOf, h, counted, Metrics.countAll]
    | false => simp [recordsOf, h, counted, Metrics.countAll]

/-! ## Runs with checked arithmetic -/

/-- The selection for a request does not stop where arithmetic is checked. -/
def isSelected (contract : Contract) (a : Arrival) : Bool :=
  (contract.selectChecked a.toRequest).isSome

theorem isSelected_of_lengths {contract : Contract}
    (h : ∀ i ∈ contract.interactions, ∀ e ∈ i.request.rules.body, e.path.length < 64)
    (a : Arrival) : isSelected contract a = true := by
  rw [isSelected, Contract.selectChecked_of_lengths h]
  rfl

theorem handleChecked_server (s : Server) (a : Arrival) :
    (s.handleChecked a).2 =
      if isSelected s.contract a then (s.handle a).server else s.counted a := by
  rw [handleChecked, isSelected]
  cases s.contract.selectChecked a.toRequest <;> rfl

/-- The server after requests that were handled one after another, with checked arithmetic. -/
def runChecked (s : Server) (arrivals : List Arrival) : Server :=
  arrivals.foldl (fun s a => (s.handleChecked a).2) s

theorem runChecked_eq (s : Server) (arrivals : List Arrival) :
    s.runChecked arrivals =
      { s with
        records := s.records ++
          recordsOf s.contract s.config (arrivals.filter (isSelected s.contract))
        metrics := s.metrics.countAll (arrivals.map fun a => a.toRequest.path) } := by
  induction arrivals generalizing s with
  | nil => simp [runChecked, recordsOf, Metrics.countAll]
  | cons a arrivals ih =>
    change (s.handleChecked a).2.runChecked arrivals = _
    rw [ih, handleChecked_server, handle_eq]
    cases hselected : isSelected s.contract a with
    | false => simp [recordsOf, hselected, counted, Metrics.countAll]
    | true =>
      cases h : isPreflight s.contract s.config a with
      | true => simp [recordsOf, hselected, h, counted, Metrics.countAll]
      | false => simp [recordsOf, hselected, h, counted, Metrics.countAll]

/-- Requests whose selection stops are counted, and otherwise as if they had not come. -/
theorem runChecked_eq_run (s : Server) (arrivals : List Arrival) :
    s.runChecked arrivals =
      { s.run (arrivals.filter (isSelected s.contract)) with
        metrics := (s.run arrivals).metrics } := by
  rw [runChecked_eq, run_eq, run_eq]

theorem runChecked_of_lengths {s : Server}
    (h : ∀ i ∈ s.contract.interactions, ∀ e ∈ i.request.rules.body, e.path.length < 64)
    (arrivals : List Arrival) : s.runChecked arrivals = s.run arrivals := by
  have hall : arrivals.filter (isSelected s.contract) = arrivals :=
    List.filter_eq_self.2 fun a _ => isSelected_of_lengths h a
  rw [runChecked_eq_run, hall]

/-! ## The verdict -/

theorem mem_recordsOf {contract : Contract} {config : Config} {arrivals : List Arrival}
    {record : Record} :
    record ∈ recordsOf contract config arrivals ↔
      ∃ a ∈ arrivals, isPreflight contract config a = false ∧ recordOf contract a = record := by
  simp [recordsOf, and_assoc]

theorem isPreflight_of_matched {contract : Contract} {a : Arrival} {index : Nat}
    (h : contract.select a.toRequest = .matched index) (config : Config) :
    isPreflight contract config a = false := by
  simp [isPreflight, h, Selection.isMatch]

/-- The verdict on a server, by the requests that left its records. -/
theorem matched_iff {s : Server} {arrivals : List Arrival}
    (h : s.records = recordsOf s.contract s.config arrivals) :
    s.matched = true ↔
      (∀ a ∈ arrivals,
        (∃ index, s.contract.select a.toRequest = .matched index) ∨
          isPreflight s.contract s.config a = true) ∧
      ∀ index < s.contract.interactions.length,
        ∃ a ∈ arrivals, s.contract.select a.toRequest = .matched index := by
  rw [matched, report, List.isEmpty_iff, ReportEntry.report_eq_nil_iff, h]
  apply and_congr
  · constructor
    · intro hmatch a ha
      cases hpreflight : isPreflight s.contract s.config a with
      | true => exact Or.inr rfl
      | false =>
        have hrecord := hmatch _ (mem_recordsOf.2 ⟨a, ha, hpreflight, rfl⟩)
        exact Or.inl (Selection.isMatch_iff.1 hrecord)
    · intro hall record hrecord
      obtain ⟨a, ha, hpreflight, rfl⟩ := mem_recordsOf.1 hrecord
      rcases hall a ha with hmatched | hasked
      · exact Selection.isMatch_iff.2 hmatched
      · rw [hasked] at hpreflight
        cases hpreflight
  · apply forall₂_congr
    intro index hindex
    constructor
    · rintro ⟨record, hrecord, houtcome⟩
      obtain ⟨a, ha, -, rfl⟩ := mem_recordsOf.1 hrecord
      exact ⟨a, ha, houtcome⟩
    -- a request that matched is no question for permission, so it left its record
    · rintro ⟨a, ha, houtcome⟩
      have hrecord := mem_recordsOf.2 ⟨a, ha, isPreflight_of_matched houtcome s.config, rfl⟩
      exact ⟨_, hrecord, houtcome⟩

theorem recordsOf_perm (contract : Contract) (config : Config) {arrivals arrivals' : List Arrival}
    (h : arrivals.Perm arrivals') :
    (recordsOf contract config arrivals).Perm (recordsOf contract config arrivals') :=
  (h.filter _).map _

/-- Servers of one contract that differ in the order of their records only have the same verdict and
    the same missing interactions, and the same entries for requests, reordered. -/
theorem report_perm {s s' : Server} (hcontract : s.contract = s'.contract)
    (hrecords : s.records.Perm s'.records) :
    s.matched = s'.matched ∧
      s.report.filter ReportEntry.isMissing = s'.report.filter ReportEntry.isMissing ∧
      (s.report.filter (!ReportEntry.isMissing ·)).Perm
        (s'.report.filter (!ReportEntry.isMissing ·)) := by
  have hmissing : ReportEntry.missing (ReportEntry.ascribed s.records) 0 s'.contract.interactions =
      ReportEntry.missing (ReportEntry.ascribed s'.records) 0 s'.contract.interactions :=
    ReportEntry.missing_congr (fun _ => (hrecords.filterMap _).mem_iff) 0 _
  have hrequests : (s.records.filterMap (ReportEntry.ofRecord? s'.contract)).Perm
      (s'.records.filterMap (ReportEntry.ofRecord? s'.contract)) :=
    hrecords.filterMap _
  have hreport : s.report.Perm s'.report := by
    simp only [report, ReportEntry.report_eq, hcontract, hmissing]
    exact hrequests.append_right _
  refine ⟨?_, ?_, ?_⟩
  · rw [matched, matched, Bool.eq_iff_iff, List.isEmpty_iff, List.isEmpty_iff]
    exact ⟨fun hnil => (hnil ▸ hreport).nil_eq.symm, fun hnil => (hnil ▸ hreport).eq_nil⟩
  · simp only [report, ReportEntry.filter_isMissing_report, hcontract, hmissing]
  · simp only [report, ReportEntry.filter_not_isMissing_report, hcontract]
    exact hrequests

/-- A server that starts without records and counts. After requests it has a record of each one that
    was not answered as a browser's question, in order, with what the contract selects for it. Its
    verdict is good when every request matched or was such a question, and every interaction was
    matched. Its counts sum up to the number of requests. In another order the requests lead to the
    same verdict, counts and missing interactions, and to the same entries for requests, reordered.

    Where arithmetic is checked, requests whose selection stops are counted, and all else is as if
    they had not come. With rules of fewer than 64 steps there are no such requests. -/
theorem run_verdict (contract : Contract) (config : Config) (address : SocketAddress)
    (arrivals : List Arrival) :
    let fresh : Server := { contract, config, address }
    let served := fresh.run arrivals
    served.records = (arrivals.filter (!isPreflight contract config ·)).map
        (fun a => ⟨a.toRequest, contract.select a.toRequest⟩) ∧
      (served.matched = true ↔
        (∀ a ∈ arrivals,
          (∃ index, contract.select a.toRequest = .matched index) ∨
            isPreflight contract config a = true) ∧
        ∀ index < contract.interactions.length,
          ∃ a ∈ arrivals, contract.select a.toRequest = .matched index) ∧
      served.metrics.total = arrivals.length ∧
      served.metrics.total = served.metrics.sumByPath ∧
      (∀ reordered, reordered.Perm arrivals →
        let served' := fresh.run reordered
        served'.matched = served.matched ∧ served'.metrics = served.metrics ∧
          served'.report.filter ReportEntry.isMissing = served.report.filter ReportEntry.isMissing ∧
          (served'.report.filter (!ReportEntry.isMissing ·)).Perm
            (served.report.filter (!ReportEntry.isMissing ·))) ∧
      fresh.runChecked arrivals =
        { fresh.run (arrivals.filter (isSelected contract)) with metrics := served.metrics } ∧
      ((∀ i ∈ contract.interactions, ∀ e ∈ i.request.rules.body, e.path.length < 64) →
        fresh.runChecked arrivals = served) := by
  intro fresh served
  have hrun : ∀ requests, fresh.run requests =
      { fresh with
        records := recordsOf contract config requests
        metrics := fresh.metrics.countAll (requests.map fun a => a.toRequest.path) } := by
    intro requests
    rw [run_eq]
    rfl
  have hserved : served = _ := hrun arrivals
  have htotal : served.metrics.total = arrivals.length := by
    rw [hserved, Metrics.total_countAll, List.length_map, Nat.zero_add]
  have hsum : served.metrics.sumByPath = arrivals.length := by
    rw [hserved, Metrics.sumByPath_countAll, List.length_map]
    exact Nat.zero_add _
  refine ⟨by rw [hserved]; rfl, ?_, htotal, htotal.trans hsum.symm, ?_,
    runChecked_eq_run fresh arrivals, fun hshort => runChecked_of_lengths hshort arrivals⟩
  · have hrecords : served.records = recordsOf served.contract served.config arrivals := by
      rw [hserved]
    have hverdict := matched_iff hrecords
    rwa [hserved] at hverdict ⊢
  · intro reordered hperm served'
    have hserved' : served' = _ := hrun reordered
    have hmetrics : served'.metrics = served.metrics := by
      rw [hserved, hserved']
      exact Metrics.countAll_perm _ (hperm.map _)
    have hrecords : served'.records.Perm served.records := by
      rw [hserved, hserved']
      exact recordsOf_perm contract config hperm
    have hcontract : served'.contract = served.contract := by rw [hserved, hserved']
    obtain ⟨hmatched, hmissing, hrequests⟩ := report_perm hcontract hrecords
    exact ⟨hmatched, hmetrics, hmissing, hrequests⟩

def onePath (path : String) : Contract where
  interactions := [{ request := { path } }]

def visit (method path : String) : Arrival := { method, path }

/-- A question for permission before or after the one request of a contract leaves its verdict
    good. -/
theorem run_verdict_question :
    let fresh : Server :=
      { contract := onePath "/a", config := { corsPreflight := true }, address := ⟨.loopback, 0⟩ }
    [visit "GET" "/a", visit "OPTIONS" "/a"].Perm [visit "OPTIONS" "/a", visit "GET" "/a"] ∧
      (fresh.run [visit "GET" "/a", visit "OPTIONS" "/a"]).matched = true ∧
      (fresh.run [visit "GET" "/a", visit "OPTIONS" "/a"]).metrics.total = 2 ∧
      (∀ i ∈ (onePath "/a").interactions, ∀ e ∈ i.request.rules.body, e.path.length < 64) ∧
      fresh.runChecked [visit "OPTIONS" "/a", visit "GET" "/a"] =
        fresh.run [visit "OPTIONS" "/a", visit "GET" "/a"] := by
  intro fresh
  have hperm : [visit "GET" "/a", visit "OPTIONS" "/a"].Perm
      [visit "OPTIONS" "/a", visit "GET" "/a"] := .swap _ _ _
  have hmatched : (fresh.run [visit "OPTIONS" "/a", visit "GET" "/a"]).matched = true := by
    decide +kernel
  have hshort : ∀ i ∈ (onePath "/a").interactions, ∀ e ∈ i.request.rules.body,
      e.path.length < 64 := by
    decide
  obtain ⟨-, -, htotal, -, hreordered, -, hchecked⟩ := run_verdict (onePath "/a")
    { corsPreflight := true } ⟨.loopback, 0⟩ [visit "OPTIONS" "/a", visit "GET" "/a"]
  obtain ⟨hverdict, hmetrics, -⟩ := hreordered _ hperm
  exact ⟨hperm, hverdict.trans hmatched, (congrArg Metrics.total hmetrics).trans htotal, hshort,
    hchecked hshort⟩

end Server

end MockProvider
