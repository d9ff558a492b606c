import HostReport.GeoIp.Lookup

/-!
# What merging makes of the answers

Sources are asked by name and their answers are found again by name.  Where the names of a table are
distinct, each name leads back to the answer of its own source, so merging in the order of the names
is merging the answers that there are in the order of the table: the silent sources drop out.
-/

namespace HostReport

variable {ι α : Type}

/-- In a table with distinct names each name finds its own value. -/
theorem lookup_map_of_nodup {name : ι → String} {value : ι → α} {is : List ι}
    (hnames : (is.map name).Nodup) {i : ι} (hi : i ∈ is) :
    (is.map fun i => (name i, value i)).lookup (name i) = some (value i) := by
  induction is with
  | nil => exact absurd hi List.not_mem_nil
  | cons k is ih =>
    obtain ⟨hfresh, hnames⟩ := List.nodup_cons.1 hnames
    rcases List.mem_cons.1 hi with rfl | hi
    · rw [List.map_cons, List.lookup_cons, beq_self_eq_true]
    · have hne : (name i == name k) = false :=
        beq_false_of_ne fun heq => hfresh (heq ▸ List.mem_map_of_mem hi)
      rw [List.map_cons, List.lookup_cons, hne]
      exact ih hnames hi

namespace IpInfo

/-- Identities merged in order: the first that knows a field decides it. -/
def merged : List IpInfo → Option IpInfo
  | [] => none
  | first :: rest => some (rest.foldl fill first)

/-- The record so far, if any, filled from an answer. -/
def mergeAnswer (merged : Option IpInfo) (other : IpInfo) : Option IpInfo :=
  some ((merged.getD {}).fill other)

theorem foldl_mergeAnswer_some (i : IpInfo) (others : List IpInfo) :
    others.foldl mergeAnswer (some i) = some (others.foldl fill i) := by
  induction others generalizing i with
  | nil => rfl
  | cons other others ih => exact ih (i.fill other)

theorem merged_eq_foldl (is : List IpInfo) : merged is = is.foldl mergeAnswer none := by
  cases is with
  | nil => rfl
  | cons first rest => exact (foldl_mergeAnswer_some first rest).symm

section Table

variable {name : ι → String} {answer : ι → Option IpInfo} {is : List ι}
  {answers : List (String × Option IpInfo)}

/-- Merging by the names of a table merges the answers of the sources that have answered, in
whatever order the answers are kept. -/
theorem mergeByPriority_eq_merged
    (hfound : ∀ i ∈ is, answers.lookup (name i) = some (answer i)) :
    mergeByPriority answers (is.map name) = merged (is.filterMap answer) := by
  rw [merged_eq_foldl, mergeByPriority]
  generalize (none : Option IpInfo) = before
  induction is generalizing before with
  | nil => rfl
  | cons i is ih =>
    have hrest := ih fun k hk => hfound k (List.mem_cons_of_mem i hk)
    rw [List.map_cons, List.foldl_cons, hfound i List.mem_cons_self]
    cases hi : answer i with
    | none =>
      rw [List.filterMap_cons_none hi]
      exact hrest before
    | some info =>
      rw [List.filterMap_cons_some hi, List.foldl_cons]
      exact hrest (mergeAnswer before info)

/-- A record with number and owner of its network filled from the answers in order, as far as the
first that leaves the number known. -/
def fillNetworkFrom (i : IpInfo) : List IpInfo → IpInfo
  | [] => i
  | other :: others =>
    let filled : IpInfo :=
      { i with asn := chooseText i.asn other.asn, org := chooseText i.org other.org }
    if filled.asn.isEmpty then fillNetworkFrom filled others else filled

/-- Filling by the names of a table fills from the answers of the sources that have answered. -/
theorem fillNetwork_eq_fillNetworkFrom
    (hfound : ∀ i ∈ is, answers.lookup (name i) = some (answer i)) (i : IpInfo) :
    fillNetwork answers i (is.map name) = i.fillNetworkFrom (is.filterMap answer) := by
  induction is generalizing i with
  | nil => rfl
  | cons k is ih =>
    have hrest := ih fun k hk => hfound k (List.mem_cons_of_mem _ hk)
    rw [List.map_cons, fillNetwork, hfound k List.mem_cons_self]
    cases hk : answer k with
    | none =>
      rw [List.filterMap_cons_none hk]
      exact hrest i
    | some other =>
      rw [List.filterMap_cons_some hk, fillNetworkFrom]
      simp only [Option.join_some, hrest]

end Table

end IpInfo

end HostReport
