import HostReport.Proofs.Address.CanonicalText
import HostReport.Proofs.Number.Numeral
import HostReport.Proofs.Text.Pieces
import HostReport.Proofs.Text.Search
import Mathlib.Data.List.Nodup

/-!
# Reading addresses back

An address is read back from its text, so no two addresses have the same text.  For IPv6 this rests
on what two colons stand for: the run that the text leaves out consists of zeros where it starts
(`replicate_longestRun_prefix`), and the parts around the colons are read with as many zeros between
them as eight groups need (`ofParts?_partsOf`).
-/

namespace HostReport

open Text

/-! ## IPv4 -/

namespace Ipv4

theorem octet?_toDigits (b : UInt8) : octet? (Nat.toDigits 10 b.toNat) = some b := by
  have hlt : b.toNat < 256 := b.toNat_lt
  have hne : (Nat.toDigits 10 b.toNat).isEmpty = false := by
    simp
  have hdigits : (Nat.toDigits 10 b.toNat).all Char.isDigit = true :=
    List.all_eq_true.2 Numeral.isDigit_of_mem_toDigits
  have hlength : ¬3 < (Nat.toDigits 10 b.toNat).length := by
    have hle : (Nat.toDigits 10 b.toNat).length ≤ 3 ↔ b.toNat < 10 ^ 3 :=
      Nat.length_toDigits_le_iff (by decide) (by decide)
    omega
  have hzero (hhead : (Nat.toDigits 10 b.toNat).head? = some '0') :
      (Nat.toDigits 10 b.toNat).length = 1 := by
    by_cases hb : 0 < b.toNat
    · exact absurd hhead (Numeral.head?_toDigits_ne hb)
    · have hb : b.toNat = 0 := by omega
      rw [hb]
      rfl
  have hvalue :
      (Nat.toDigits 10 b.toNat).foldl (fun n c => n * 10 + (c.toNat - 48)) 0 = b.toNat := by
    have hread := Numeral.ofAsciiDigits_toDigits b.toNat
    rw [Numeral.ofAsciiDigits, Numeral.ofDigitValues, List.foldl_map] at hread
    simpa only [Nat.mul_comm] using hread
  rw [octet?, hne, hdigits]
  simpa [hlength, hvalue, hlt] using hzero

theorem toList_text (ip : Ipv4) : ip.text.toList = joinWith ['.']
    [Nat.toDigits 10 ip.a.toNat, Nat.toDigits 10 ip.b.toNat, Nat.toDigits 10 ip.c.toNat,
      Nat.toDigits 10 ip.d.toNat] := by
  simp [text, joinWith, toString, Nat.repr]

/-- Between the points of its text stand the digits of an address. -/
theorem splitOnP_text (ip : Ipv4) : ip.text.toList.splitOnP (· == '.') =
    [Nat.toDigits 10 ip.a.toNat, Nat.toDigits 10 ip.b.toNat, Nat.toDigits 10 ip.c.toNat,
      Nat.toDigits 10 ip.d.toNat] := by
  rw [toList_text]
  refine splitOnP_joinWith (by decide) (List.cons_ne_nil _ _) fun w hw c hc => ?_
  have hdigit : c.isDigit = true := by
    simp only [List.mem_cons, List.not_mem_nil, or_false] at hw
    rcases hw with rfl | rfl | rfl | rfl <;> exact Numeral.isDigit_of_mem_toDigits c hc
  have hpoint : c ≠ '.' := by
    rintro rfl
    exact absurd hdigit (by decide)
  simpa using hpoint

/-- An address is read back from its text. -/
theorem ofText?_text (ip : Ipv4) : ofText? ip.text.toList = some ip := by
  rw [ofText?, splitOnP_text]
  simp [octet?_toDigits]

theorem text_inj {ip ip' : Ipv4} : ip.text = ip'.text ↔ ip = ip' := by
  refine ⟨fun heq => ?_, congrArg text⟩
  have hread := ofText?_text ip
  rw [heq, ofText?_text] at hread
  exact (Option.some.inj hread).symm

/-- A text without points denotes no address. -/
theorem ofText?_of_not_mem {s : List Char} (hpoint : '.' ∉ s) : ofText? s = none := by
  have hsplit : s.splitOnP (· == '.') = [s] := by
    refine List.splitOnP_eq_singleton fun c hc => ?_
    have hne : c ≠ '.' := fun h => hpoint (h ▸ hc)
    simpa using hne
  rw [ofText?, hsplit]

end Ipv4

/-! ## IPv6 -/

namespace Ipv6

/-! ### The run that is left out -/

/-- The longest run is a run of zeros where it is said to start. -/
theorem replicate_longestRun_prefix {all gs : List Nat} {i : Nat} {best : Nat × Nat}
    (hgs : all.drop i = gs) (hbest : List.replicate best.2 0 <+: all.drop best.1) :
    List.replicate (longestRun i best gs).2 0 <+: all.drop (longestRun i best gs).1 := by
  induction gs generalizing i best with
  | nil => exact hbest
  | cons g gs ih =>
    have hrest : all.drop (i + 1) = gs := by
      rw [← List.drop_drop, hgs, List.drop_one, List.tail_cons]
    rw [longestRun]
    by_cases hlonger : best.2 < ((g :: gs).takeWhile (· == 0)).length
    · rw [if_pos hlonger]
      refine ih hrest ?_
      rw [hgs, replicate_prefix_iff_leadingZeros, leadingZeros]
    · rw [if_neg hlonger]
      exact ih hrest hbest

/-- The text is that of all groups, or of those on both sides of a run of zeros. -/
theorem groupsText_cases (gs : List Nat) :
    groupsText gs = joinGroups gs ∨
      ∃ front n back, 2 ≤ n ∧ gs = front ++ (List.replicate n 0 ++ back) ∧
        groupsText gs = joinGroups front ++ ':' :: ':' :: joinGroups back := by
  have hrun : List.replicate (longestRun 0 (0, 0) gs).2 0 <+:
      gs.drop (longestRun 0 (0, 0) gs).1 :=
    replicate_longestRun_prefix List.drop_zero List.nil_prefix
  rw [groupsText]
  generalize longestRun 0 (0, 0) gs = run at hrun
  obtain ⟨start, n⟩ := run
  by_cases hn : n < 2
  · exact .inl (if_pos hn)
  · obtain ⟨back, hback⟩ := hrun
    have hdrop : gs.drop (start + n) = back := by
      rw [← List.drop_drop, ← hback, List.drop_left' List.length_replicate]
    refine .inr ⟨gs.take start, n, back, by omega, ?_, ?_⟩
    · rw [hback, List.take_append_drop]
    · rw [← hdrop]
      simp only [if_neg hn, List.append_assoc]
      rfl

/-! ### The parts between colons -/

/-- The parts that joined groups are cut into at the colons: of no group, one empty part. -/
def partsOf (gs : List Nat) : List (List Char) :=
  if gs = [] then [[]] else gs.map (Nat.toDigits 16)

theorem splitOnP_joinGroups (gs : List Nat) :
    (joinGroups gs).splitOnP (· == ':') = partsOf gs := by
  have hgroups : joinGroups gs = joinWith [':'] (gs.map (Nat.toDigits 16)) := by
    rw [joinGroups, funext hexDigits_one]
  rw [hgroups, partsOf]
  by_cases hgs : gs = []
  · rw [if_pos hgs, hgs]
    rfl
  · rw [if_neg hgs]
    refine splitOnP_joinWith (by decide) (by simpa using hgs) fun w hw c hc => ?_
    obtain ⟨g, -, rfl⟩ := List.mem_map.1 hw
    have hcolon : c ≠ ':' := fun h => colon_not_mem_toDigits g (h ▸ hc)
    simpa using hcolon

theorem group?_toDigits {g : Nat} (hg : g < 65536) : group? (Nat.toDigits 16 g) = some g := by
  have hlength : (Nat.toDigits 16 g).length ≤ 4 ↔ g < 16 ^ 4 :=
    Nat.length_toDigits_le_iff (by decide) (by decide)
  have hwide : ¬4 < (Nat.toDigits 16 g).length := by omega
  rw [group?, foldlM_hexValue?_toDigits]
  simp [hwide]

theorem mapM_group?_toDigits {gs : List Nat} (hgs : ∀ g ∈ gs, g < 65536) :
    (gs.map (Nat.toDigits 16)).mapM group? = some gs := by
  induction gs with
  | nil => rfl
  | cons g gs ih =>
    obtain ⟨hg, hgs⟩ := List.forall_mem_cons.1 hgs
    rw [List.map_cons, List.mapM_cons, group?_toDigits hg, ih hgs]
    rfl

/-- A part is empty only where there is no group. -/
theorem partsOf_cases (gs : List Nat) :
    gs = [] ∧ partsOf gs = [[]] ∨
      gs ≠ [] ∧ partsOf gs = gs.map (Nat.toDigits 16) := by
  by_cases hgs : gs = []
  · exact .inl ⟨hgs, if_pos hgs⟩
  · exact .inr ⟨hgs, if_neg hgs⟩

theorem partsOf_ne_nil (gs : List Nat) : partsOf gs ≠ [] := by
  rcases partsOf_cases gs with ⟨-, hparts⟩ | ⟨hgs, hparts⟩
  · simp [hparts]
  · simpa [hparts] using hgs

theorem not_isEmpty_of_mem_map {gs : List Nat} {w : List Char}
    (hw : w ∈ gs.map (Nat.toDigits 16)) : w.isEmpty = false := by
  obtain ⟨g, -, rfl⟩ := List.mem_map.1 hw
  simp

/-- Parts that are groups are read as these. -/
theorem ofParts?_map {gs : List Nat} (hlength : gs.length = 8) (hgs : ∀ g ∈ gs, g < 65536) :
    ofParts? (gs.map (Nat.toDigits 16)) = some gs := by
  have hgaps : gaps (gs.map (Nat.toDigits 16)) = [] := by
    refine List.filter_eq_nil_iff.2 fun i _ => ?_
    cases hpart : (gs.map (Nat.toDigits 16))[i]? with
    | none => simp
    | some w =>
      have hw := not_isEmpty_of_mem_map (List.mem_of_getElem? hpart)
      simp [hw]
  rw [ofParts?, hgaps]
  simp [hlength, mapM_group?_toDigits hgs]

/-- Of two or more parts none is empty. -/
theorem any_isEmpty_partsOf {gs : List Nat} (htwo : 1 < (partsOf gs).length) (i : Nat) :
    (partsOf gs)[i]?.any (·.isEmpty) = false := by
  rcases partsOf_cases gs with ⟨-, hparts⟩ | ⟨-, hparts⟩
  · rw [hparts] at htwo
    exact absurd htwo (by decide)
  · rw [hparts]
    cases hpart : (gs.map (Nat.toDigits 16))[i]? with
    | none => rfl
    | some w => exact not_isEmpty_of_mem_map (List.mem_of_getElem? hpart)

/-- The only gap is the empty part between the groups in front and those behind. -/
theorem gaps_partsOf (front back : List Nat) :
    gaps (partsOf front ++ [] :: partsOf back) = [(partsOf front).length] := by
  have hfront := List.length_pos_iff.2 (partsOf_ne_nil front)
  have hback := List.length_pos_iff.2 (partsOf_ne_nil back)
  have hlength : (partsOf front ++ [] :: partsOf back).length =
      (partsOf front).length + (partsOf back).length + 1 := by
    rw [List.length_append, List.length_cons, Nat.add_assoc]
  have hgap (i : Nat) :
      (decide (0 < i) && decide (i + 1 < (partsOf front).length + (partsOf back).length + 1) &&
        (partsOf front ++ [] :: partsOf back)[i]?.any (·.isEmpty)) =
      (i == (partsOf front).length) := by
    rcases Nat.lt_trichotomy i (partsOf front).length with hi | rfl | hi
    · have hne : (i == (partsOf front).length) = false := by simpa using Nat.ne_of_lt hi
      rw [List.getElem?_append_left hi, hne]
      by_cases hfirst : 0 < i
      · rw [any_isEmpty_partsOf (by omega), Bool.and_false]
      · simp [hfirst]
    · have hlast : (partsOf front).length + 1 <
          (partsOf front).length + (partsOf back).length + 1 := by omega
      have hpart : (partsOf front ++ [] :: partsOf back)[(partsOf front).length]? = some [] := by
        rw [List.getElem?_append_right (Nat.le_refl _), Nat.sub_self, List.getElem?_cons_zero]
      rw [hpart, decide_eq_true hfront, decide_eq_true hlast, beq_self_eq_true]
      rfl
    · obtain ⟨j, rfl⟩ := Nat.exists_eq_add_of_lt hi
      have hne : ((partsOf front).length + j + 1 == (partsOf front).length) = false := by
        simp [Nat.add_assoc]
      have hpart : (partsOf front ++ [] :: partsOf back)[(partsOf front).length + j + 1]? =
          (partsOf back)[j]? := by
        rw [Nat.add_assoc, List.getElem?_append_right (Nat.le_add_right _ _),
          Nat.add_sub_cancel_left, List.getElem?_cons_succ]
      rw [hpart, hne]
      by_cases hlast : j + 1 < (partsOf back).length
      · rw [any_isEmpty_partsOf (by omega), Bool.and_false]
      · have hlate : ¬(partsOf front).length + j + 1 + 1 <
            (partsOf front).length + (partsOf back).length + 1 := by omega
        rw [decide_eq_false hlate, Bool.and_false, Bool.false_and]
  have hmember : (partsOf front).length ∈
      List.range ((partsOf front).length + (partsOf back).length + 1) :=
    List.mem_range.2 (by omega)
  rw [gaps, hlength, funext hgap, List.filter_beq,
    List.count_eq_one_of_mem List.nodup_range hmember, List.replicate_one]

/-- The part at the front is empty only where there is no group. -/
theorem head?_partsOf_eq_iff {gs : List Nat} : (partsOf gs).head? = some [] ↔ gs = [] := by
  rcases partsOf_cases gs with ⟨rfl, -⟩ | ⟨hgs, hparts⟩
  · decide
  · refine iff_of_false (fun hhead => ?_) hgs
    rw [hparts] at hhead
    exact absurd (not_isEmpty_of_mem_map (List.mem_of_mem_head? hhead)) (by decide)

theorem getLast?_partsOf_eq_iff {gs : List Nat} : (partsOf gs).getLast? = some [] ↔ gs = [] := by
  rcases partsOf_cases gs with ⟨rfl, -⟩ | ⟨hgs, hparts⟩
  · decide
  · refine iff_of_false (fun hlast => ?_) hgs
    rw [hparts] at hlast
    exact absurd (not_isEmpty_of_mem_map (List.mem_of_getLast? hlast)) (by decide)

theorem length_partsOf (gs : List Nat) : (partsOf gs).length = max 1 gs.length := by
  rcases partsOf_cases gs with ⟨rfl, -⟩ | ⟨hgs, hparts⟩
  · rfl
  · have hpos := List.length_pos_iff.2 hgs
    rw [hparts, List.length_map]
    omega

/-- Groups on both sides of an empty part are read with zeros between them, eight in all. -/
theorem ofParts?_partsOf {front back : List Nat} (hlength : front.length + back.length < 8)
    (hfront : ∀ g ∈ front, g < 65536) (hback : ∀ g ∈ back, g < 65536) :
    ofParts? (partsOf front ++ [] :: partsOf back) =
      some (front ++ (List.replicate (8 - (front.length + back.length)) 0 ++ back)) := by
  have hfew : ¬9 < (partsOf front ++ [] :: partsOf back).length := by
    rw [List.length_append, List.length_cons, length_partsOf, length_partsOf]
    omega
  have htake : (partsOf front ++ [] :: partsOf back).take (partsOf front).length = partsOf front :=
    List.take_left
  have hdrop : (partsOf front ++ [] :: partsOf back).drop ((partsOf front).length + 1) =
      partsOf back := by
    rw [← List.drop_drop, List.drop_left, List.drop_one, List.tail_cons]
  have hhead : (partsOf front ++ [] :: partsOf back).head? = (partsOf front).head? :=
    List.head?_append_of_ne_nil _ (partsOf_ne_nil front)
  have hlast : (partsOf front ++ [] :: partsOf back).getLast? = (partsOf back).getLast? := by
    rw [List.getLast?_append_of_ne_nil _ (List.cons_ne_nil _ _),
      List.getLast?_cons_of_ne_nil (partsOf_ne_nil back)]
  have hhigh : (if (partsOf front).head? == some [] then (partsOf front).tail else partsOf front) =
      front.map (Nat.toDigits 16) := by
    rcases partsOf_cases front with ⟨rfl, -⟩ | ⟨hne, hparts⟩
    · rfl
    · rw [if_neg (by simpa [head?_partsOf_eq_iff] using hne), hparts]
  have hlow : (if (partsOf back).getLast? == some [] then (partsOf back).dropLast
      else partsOf back) = back.map (Nat.toDigits 16) := by
    rcases partsOf_cases back with ⟨rfl, -⟩ | ⟨hne, hparts⟩
    · rfl
    · rw [if_neg (by simpa [getLast?_partsOf_eq_iff] using hne), hparts]
  have hopen : (decide ((partsOf front).head? ≠ some []) ||
      (front.map (Nat.toDigits 16)).isEmpty) = true := by
    simpa [head?_partsOf_eq_iff] using (Classical.em (front = [])).symm
  have hclose : (decide ((partsOf back).getLast? ≠ some []) ||
      (back.map (Nat.toDigits 16)).isEmpty) = true := by
    simpa [getLast?_partsOf_eq_iff] using (Classical.em (back = [])).symm
  have hroom : (front.map (Nat.toDigits 16)).length + (back.map (Nat.toDigits 16)).length < 8 := by
    rwa [List.length_map, List.length_map]
  have hpass {P : Prop} [Decidable P] (hP : P) : (guard P : Option Unit) = some () := if_pos hP
  rw [ofParts?, if_neg hfew, gaps_partsOf]
  dsimp only
  rw [htake, hdrop, hhead, hlast, List.drop_one, hhigh, hlow, hpass hopen, hpass hclose,
    hpass hroom, mapM_group?_toDigits hfront, mapM_group?_toDigits hback, ← List.append_assoc]
  rfl

/-! ### The whole text -/

theorem not_mem_groupsText {c : Char} (hc : isLowHexOrColon c = false) (gs : List Nat) :
    c ∉ groupsText gs := fun hmem =>
  absurd (forall_mem_groupsText gs c hmem) (by simp [hc])

/-- A text of three or more parts and without points is cut at its colons. -/
theorem parts?_of_not_mem {s : List Char} (hpoint : '.' ∉ s)
    (hparts : 3 ≤ (s.splitOnP (· == ':')).length) : parts? s = some (s.splitOnP (· == ':')) := by
  have hne : s.splitOnP (· == ':') ≠ [] := List.splitOnP_ne_nil _ _
  have hlast : '.' ∉ (s.splitOnP (· == ':')).getLast hne := by
    intro hmem
    refine hpoint ?_
    rw [← joinWith_splitOnP ':' s]
    exact mem_joinWith (List.getLast_mem hne) hmem
  rw [parts?]
  simp only [if_neg (Nat.not_lt.2 hparts), List.getLast?_eq_getLast_of_ne_nil hne]
  simp [hlast]

/-- Eight groups are read back from their text. -/
theorem ofText?_groupsText {gs : List Nat} (hlength : gs.length = 8) (hgs : ∀ g ∈ gs, g < 65536) :
    ofText? (groupsText gs) = some gs := by
  have hcut : cut? '%' (groupsText gs) = none :=
    cut?_eq_none_iff.2 (not_mem_groupsText (by decide) gs)
  have hslash : (groupsText gs).contains '/' = false := by
    simpa using not_mem_groupsText (by decide) gs
  suffices hread : 3 ≤ ((groupsText gs).splitOnP (· == ':')).length ∧
      ofParts? ((groupsText gs).splitOnP (· == ':')) = some gs by
    rw [ofText?, hslash, hcut]
    simp [parts?_of_not_mem (not_mem_groupsText (by decide) gs) hread.1, hread.2]
  rcases groupsText_cases gs with htext | ⟨front, n, back, hn, rfl, htext⟩
  · have hparts : partsOf gs = gs.map (Nat.toDigits 16) :=
      if_neg (List.ne_nil_of_length_pos (by omega))
    rw [htext, splitOnP_joinGroups, length_partsOf, hparts, ofParts?_map hlength hgs]
    exact ⟨by omega, rfl⟩
  · have hsplit : (groupsText (front ++ (List.replicate n 0 ++ back))).splitOnP (· == ':') =
        partsOf front ++ [] :: partsOf back := by
      rw [htext, List.splitOnP_append_cons (joinGroups front) (':' :: joinGroups back) (by decide),
        List.splitOnP_cons_eq_if_modifyHead, if_pos (by decide), splitOnP_joinGroups,
        splitOnP_joinGroups]
    simp only [List.length_append, List.length_replicate] at hlength
    have hzeros : 8 - (front.length + back.length) = n := by omega
    have hfront : ∀ g ∈ front, g < 65536 := fun g hg => hgs g (by simp [hg])
    have hback : ∀ g ∈ back, g < 65536 := fun g hg => hgs g (by simp [hg])
    rw [hsplit, ofParts?_partsOf (by omega) hfront hback, hzeros]
    refine ⟨?_, rfl⟩
    rw [List.length_append, List.length_cons, length_partsOf, length_partsOf]
    omega

/-! ### The groups that bytes hold -/

theorem length_groupsOf : ∀ bytes : Bytes, (groupsOf bytes).length = bytes.length / 2
  | [] => rfl
  | [_] => by simp [groupsOf]
  | high :: low :: rest => by
    rw [groupsOf, List.length_cons, length_groupsOf rest, List.length_cons, List.length_cons]
    omega

theorem lt_of_mem_groupsOf : ∀ {bytes : Bytes}, ∀ g ∈ groupsOf bytes, g < 65536
  | [], g, hg => absurd hg List.not_mem_nil
  | [_], g, hg => absurd hg (by simp [groupsOf])
  | high :: low :: rest, g, hg => by
    have hhigh : high.toNat < 256 := high.toNat_lt
    have hlow : low.toNat < 256 := low.toNat_lt
    rcases List.mem_cons.1 hg with rfl | hg
    · omega
    · exact lt_of_mem_groupsOf g hg

/-- As many bytes, of an even number, hold different groups. -/
theorem eq_of_groupsOf_eq : ∀ {a b : Bytes}, a.length = b.length → a.length % 2 = 0 →
    groupsOf a = groupsOf b → a = b
  | [], b, hlength, _, _ => (List.length_eq_zero_iff.1 hlength.symm).symm
  | [_], _, _, heven, _ => absurd heven (by simp)
  | _ :: _ :: _, [], hlength, _, _ => absurd hlength (by simp)
  | _ :: _ :: _, [_], hlength, _, _ => absurd hlength (by simp)
  | high :: low :: rest, high' :: low' :: rest', hlength, heven, heq => by
    have hlow : low.toNat < 256 := low.toNat_lt
    have hlow' : low'.toNat < 256 := low'.toNat_lt
    simp only [List.length_cons, Nat.add_right_cancel_iff] at hlength heven
    rw [groupsOf, groupsOf] at heq
    obtain ⟨hgroup, hrest⟩ := List.cons.inj heq
    have hhighs : high = high' := UInt8.toNat_inj.1 (by omega)
    have hlows : low = low' := UInt8.toNat_inj.1 (by omega)
    rw [hhighs, hlows, eq_of_groupsOf_eq hlength (by omega) hrest]

/-- The groups of an address are read back from its text. -/
theorem ofText?_text {bytes : Bytes} (h : bytes.length = 16) :
    ofText? (text bytes).toList = some (groupsOf bytes) := by
  have hlength : (groupsOf bytes).length = 8 := by rw [length_groupsOf, h]
  rw [text, String.toList_ofList]
  exact ofText?_groupsText hlength lt_of_mem_groupsOf

theorem text_inj {a b : Bytes} (ha : a.length = 16) (hb : b.length = 16) :
    text a = text b ↔ a = b := by
  refine ⟨fun heq => ?_, congrArg text⟩
  have hread := ofText?_text ha
  rw [heq, ofText?_text hb] at hread
  exact eq_of_groupsOf_eq (ha.trans hb.symm) (by rw [ha]) (Option.some.inj hread).symm

end Ipv6

/-- Addresses of different kinds have different texts: only that of an IPv4 address has points. -/
theorem Ipv4.text_ne_text (ip : Ipv4) (bytes : Bytes) : ip.text ≠ Ipv6.text bytes := by
  intro heq
  have hread := ofText?_text ip
  rw [heq, Ipv6.text, String.toList_ofList,
    ofText?_of_not_mem (Ipv6.not_mem_groupsText (by decide) _)] at hread
  cases hread

end HostReport
