import Mathlib.Data.String.Basic
import Ufo.DoFilter

namespace Ufo

/-! The width of the table: the lengths of the header and the rule of each page (lines
332-341) against `maxTextWidth`, which fixes `nlocsPerRow` (lines 242-246). -/

theorem length_setw (width : Int) (text : String) :
    (setw width text).length = max width.toNat text.length := by
  simp only [setw, String.length_append, String.length_mk, List.length_replicate]
  omega

theorem join_cons (s : String) (l : List String) : String.join (s :: l) = s ++ String.join l := by
  simp only [String.join_eq, List.map_cons, List.flatten_cons]
  rfl

theorem length_join_const {n : Nat} :
    ∀ {l : List String}, (∀ s ∈ l, s.length = n) → (String.join l).length = l.length * n
  | [], _ => (Nat.zero_mul n).symm
  | s :: l, h => by
    rw [join_cons, String.length_append, h s (.head _),
      length_join_const fun t ht => h t (.tail _ ht), List.length_cons, Nat.succ_mul,
      Nat.add_comm]

theorem length_headerLine (maxVariableNameLength columnWidth : Int) {locGroup : List Int}
    (hfit : ∀ loc ∈ locGroup, (toString loc).length ≤ columnWidth.toNat) :
    (headerLine maxVariableNameLength columnWidth locGroup).length =
      max maxVariableNameLength.toNat 8 + 3 + locGroup.length * (columnWidth.toNat + 3) := by
  have hcells : ∀ s ∈ locGroup.map (fun loc => setw columnWidth (toString loc) ++ " | "),
      s.length = columnWidth.toNat + 3 := by
    simp only [List.mem_map]
    rintro _ ⟨loc, hloc, rfl⟩
    rw [String.length_append, length_setw, max_eq_left (hfit loc hloc)]
    rfl
  rw [headerLine, String.length_append, String.length_append, length_setw,
    length_join_const hcells, List.length_map]
  rfl

theorem length_separatorLine {maxVariableNameLength columnWidth : Int} {locGroup : List Int}
    {separator : String}
    (h : separatorLine maxVariableNameLength columnWidth locGroup = .ok separator) :
    separator.length =
      maxVariableNameLength.toNat + 3 + locGroup.length * (columnWidth.toNat + 3) := by
  unfold separatorLine at h
  split at h
  · cases h
  · cases h
    have hcells : ∀ s ∈ locGroup.map
        (fun _ => String.mk (List.replicate columnWidth.toNat '-') ++ "-+-"),
        s.length = columnWidth.toNat + 3 := by
      simp only [List.mem_map]
      rintro _ ⟨_, _, rfl⟩
      rw [String.length_append, String.length_mk, List.length_replicate]
      rfl
    rw [String.length_append, String.length_append, length_join_const hcells, List.length_map,
      String.length_mk, List.length_replicate]
    rfl

theorem le_foldl_of_le {α : Type} {f : Nat → α → Nat} (hf : ∀ m x, m ≤ f m x) :
    ∀ (l : List α) (init : Nat), init ≤ l.foldl f init
  | [], _ => Nat.le_refl _
  | x :: l, init => Nat.le_trans (hf init x) (le_foldl_of_le hf l (f init x))

/-- The longest name is at least the label `Location`. -/
theorem location_le_getMaxVariableNameLength (params : Parameters) (cache : Cache) :
    "Location".length ≤ getMaxVariableNameLength params cache := by
  refine le_foldl_of_le (fun m p => ?_) _ _
  dsimp only
  split
  · exact le_foldl_of_le (fun m level => by split <;> omega) _ _
  · split
    · omega
    · exact le_foldl_of_le (fun m ich => by omega) _ _

/-- A page of at most `nlocsPerRow` columns of `columnWidth + 3` characters fits in what
`maxTextWidth` leaves after the longest name, once one full column does. -/
theorem mul_le_of_le_nlocsPerRow {maxTextWidth maxVariableNameLength columnWidth : Int} {n : Nat}
    (hcw : 0 ≤ columnWidth)
    (hwidth : maxVariableNameLength + 3 + columnWidth + 3 ≤ maxTextWidth)
    (hn : (n : Int) ≤ nlocsPerRow maxTextWidth maxVariableNameLength columnWidth) :
    n * (columnWidth + 3) ≤ maxTextWidth - maxVariableNameLength := by
  rw [nlocsPerRow, Int.tdiv_eq_ediv (by omega) (by omega)] at hn
  rcases le_max_iff.mp hn with hq | h1
  · calc (n : Int) * (columnWidth + 3)
        ≤ (maxTextWidth - maxVariableNameLength) / (columnWidth + 3) * (columnWidth + 3) :=
          Int.mul_le_mul_of_nonneg_right hq (by omega)
      _ ≤ maxTextWidth - maxVariableNameLength := Int.ediv_mul_le _ (by omega)
  · have := Int.mul_le_mul_of_nonneg_right h1 (by omega : (0 : Int) ≤ columnWidth + 3)
    omega

theorem printPage_header {env : Env} {params : Parameters} {store : Store} {cache : Cache}
    {maxVariableNameLength : Int} {locGroup : List Int} {idxGroup : List Nat} {page : List String}
    (h : printPage env params store cache maxVariableNameLength locGroup idxGroup = .ok page) :
    ∃ separator rest,
      separatorLine maxVariableNameLength params.columnWidth locGroup = .ok separator ∧
      page = headerLine maxVariableNameLength params.columnWidth locGroup :: separator :: rest := by
  unfold printPage at h
  cases hsep : separatorLine maxVariableNameLength params.columnWidth locGroup with
  | error e => rw [hsep, error_bind] at h; cases h
  | ok separator =>
    cases hrows : params.variables.mapM
        (printVariableRows env params store cache maxVariableNameLength idxGroup) with
    | error e => rw [hsep, ok_bind, hrows, error_bind] at h; cases h
    | ok rows =>
      rw [hsep, ok_bind, hrows, ok_bind, pure_eq_ok, Except.ok.injEq] at h
      exact ⟨separator, rows.flatten ++ [""], rfl, h.symm⟩

/-- Once one full column fits in `maxTextWidth` beside the longest name, every page's header
and rule are at most `maxTextWidth + 3` characters long, the header when its locations' numbers
fit in `columnWidth`. -/
theorem printAllData_lines_within_width {env : Env} {params : Parameters} {store : Store}
    {cache : Cache} {globalNumLocs : Nat} {allGatherv : AllGatherv} {lines : List String}
    (hcw : 0 ≤ params.columnWidth)
    (hwidth : (getMaxVariableNameLength params cache : Int) + 3 + params.columnWidth + 3 ≤
      params.maxTextWidth)
    (h : printAllData env params store cache globalNumLocs allGatherv = .ok lines) :
    ∃ (groups : List (List Int)) (pages : List (List String)), lines = pages.flatten ∧
      List.Forall₂ (fun locGroup page => ∃ separator rest,
          page = headerLine (getMaxVariableNameLength params cache) params.columnWidth locGroup ::
            separator :: rest ∧
          (separator.length : Int) ≤ params.maxTextWidth + 3 ∧
          ((∀ loc ∈ locGroup, (toString loc).length ≤ params.columnWidth.toNat) →
            ((headerLine (getMaxVariableNameLength params cache) params.columnWidth
              locGroup).length : Int) ≤ params.maxTextWidth + 3))
        groups pages := by
  obtain ⟨locsToPrint, indicesToPrint, pages, rfl, hpages⟩ := printAllData_pages h
  have hk := one_le_nlocsPerRow params.maxTextWidth (getMaxVariableNameLength params cache)
    params.columnWidth
  have hgroups := (List.forall₂_and_left _ _).mpr
    ⟨fun group hgroup => length_le_of_mem_groupRows (by omega) (List.of_mem_zip hgroup).1, hpages⟩
  refine ⟨((groupRows _ locsToPrint).zip (groupRows _ indicesToPrint)).map Prod.fst, pages, rfl,
    List.forall₂_map_left_iff.mpr (hgroups.imp fun group page hpage => ?_)⟩
  obtain ⟨hlen, hpage⟩ := hpage
  obtain ⟨separator, rest, hsep, rfl⟩ := printPage_header hpage
  have hL : 8 ≤ getMaxVariableNameLength params cache :=
    location_le_getMaxVariableNameLength params cache
  have hline : ((getMaxVariableNameLength params cache + 3 +
      group.1.length * (params.columnWidth.toNat + 3) : Nat) : Int) ≤ params.maxTextWidth + 3 := by
    have hn := mul_le_of_le_nlocsPerRow hcw hwidth (n := group.1.length) (by omega)
    push_cast
    rw [Int.toNat_of_nonneg hcw]
    omega
  refine ⟨separator, rest, rfl, ?_, fun hfit => ?_⟩
  · rwa [length_separatorLine hsep, Int.toNat_natCast]
  · rwa [length_headerLine _ _ hfit, Int.toNat_natCast, max_eq_left hL]

/-- Rows `0` and `1` of the `ObsValue` field, with values `10` and `20`, on one rank. -/
def twoRowStore : Store :=
  Store.ofInts [0, 1] [true, true] [(obsValueField.variable, .integer, [10, 20])] [] 0

/-- `maxTextWidth = 18` and `columnWidth = 1` for the `ObsValue` field, whose name is 10
characters long: `nlocsPerRow = (18 - 10) / (1 + 3) = 2`. -/
def narrowParams : Parameters := ⟨[obsValueField], 0, 0, 18, 1, 2, false, false, none, false⟩

theorem printAllData_lines_within_width_narrow :
    0 ≤ narrowParams.columnWidth ∧
    (getMaxVariableNameLength narrowParams
        (writeFilterData Cache.empty (getAllData twoRowStore narrowParams.variables)) : Int) +
      3 + narrowParams.columnWidth + 3 ≤ narrowParams.maxTextWidth ∧
    printAllData sampleEnv narrowParams twoRowStore
        (writeFilterData Cache.empty (getAllData twoRowStore narrowParams.variables)) 2
        (gatherAll [twoRowStore]) =
      .ok ["  Location | 0 | 1 | ", "-----------+---+---+-", "ObsValue/x | 10 | 20 | ", ""] ∧
    ∃ (groups : List (List Int)) (pages : List (List String)),
      ["  Location | 0 | 1 | ", "-----------+---+---+-", "ObsValue/x | 10 | 20 | ", ""] =
        pages.flatten ∧
      List.Forall₂ (fun locGroup page => ∃ separator rest,
          page = headerLine (getMaxVariableNameLength narrowParams
              (writeFilterData Cache.empty (getAllData twoRowStore narrowParams.variables)))
            narrowParams.columnWidth locGroup :: separator :: rest ∧
          (separator.length : Int) ≤ narrowParams.maxTextWidth + 3 ∧
          ((∀ loc ∈ locGroup, (toString loc).length ≤ narrowParams.columnWidth.toNat) →
            ((headerLine (getMaxVariableNameLength narrowParams
                (writeFilterData Cache.empty (getAllData twoRowStore narrowParams.variables)))
              narrowParams.columnWidth locGroup).length : Int) ≤ narrowParams.maxTextWidth + 3))
        groups pages :=
  have hcw : 0 ≤ narrowParams.columnWidth := by decide
  have hwidth : (getMaxVariableNameLength narrowParams
        (writeFilterData Cache.empty (getAllData twoRowStore narrowParams.variables)) : Int) +
      3 + narrowParams.columnWidth + 3 ≤ narrowParams.maxTextWidth := by decide
  have h : printAllData sampleEnv narrowParams twoRowStore
        (writeFilterData Cache.empty (getAllData twoRowStore narrowParams.variables)) 2
        (gatherAll [twoRowStore]) =
      .ok ["  Location | 0 | 1 | ", "-----------+---+---+-", "ObsValue/x | 10 | 20 | ", ""] := rfl
  ⟨hcw, hwidth, h, printAllData_lines_within_width hcw hwidth h⟩

/-- One full column fits beside the name, yet the header and the rule of the page of locations
`0` and `1` are 21 characters long, past `maxTextWidth = 18` by the `" | "` after the label. -/
theorem doFilter_header_exceeds_maxTextWidth :
    (getMaxVariableNameLength narrowParams
        (writeFilterData Cache.empty (getAllData twoRowStore narrowParams.variables)) : Int) +
      3 + narrowParams.columnWidth + 3 ≤ narrowParams.maxTextWidth ∧
    ((PrintFilterData.init narrowParams).doFilter sampleEnv twoRowStore).1 =
      .ok (PrintFilterData.banner narrowParams ++
        ["  Location | 0 | 1 | ", "-----------+---+---+-", "ObsValue/x | 10 | 20 | ", ""]) ∧
    ("  Location | 0 | 1 | ".length : Int) = narrowParams.maxTextWidth + 3 ∧
    ("-----------+---+---+-".length : Int) = narrowParams.maxTextWidth + 3 :=
  ⟨by decide, rfl, rfl, rfl⟩

/-! The label column: `setw(maxVariableNameLength)` pads every label to the same width when no
label is longer than the longest name counted by `getMaxVariableNameLength`. -/

theorem le_foldl_of_mem {α : Type} {f : Nat → α → Nat} (hf : ∀ m x, m ≤ f m x) {x : α} {b : Nat}
    (hb : ∀ m, b ≤ f m x) : ∀ {l : List α} (init : Nat), x ∈ l → b ≤ l.foldl f init
  | _ :: l, init, .head _ => Nat.le_trans (hb init) (le_foldl_of_le hf l _)
  | _ :: l, _, .tail _ h => le_foldl_of_mem hf hb (l := l) _ h

/-- Every label the render loop prints is counted by `getMaxVariableNameLength`, once each
channel-less field outside the multi-level groups has a group: its label is `group/name`,
counted as `fullName()`. -/
theorem length_le_getMaxVariableNameLength {params : Parameters} {cache : Cache} {store : Store}
    (hgroup : ∀ p ∈ params.variables, isMultiLevelData p.variable = false →
      p.variable.channels = [] → p.variable.group ≠ "")
    {p : VariablePrintParameters} (hp : p ∈ params.variables) {key : String}
    (hkey : key ∈ renderKeys store p) (hfound : (cache key).isSome) :
    key.length ≤ getMaxVariableNameLength params cache := by
  refine le_foldl_of_mem (fun m q => ?_) (fun m => ?_) _ hp
  · dsimp only
    split
    · exact le_foldl_of_le (fun m level => by split <;> omega) _ _
    · split
      · omega
      · exact le_foldl_of_le (fun m ich => by omega) _ _
  · unfold renderKeys at hkey
    dsimp only at hkey ⊢
    split at hkey
    · cases hkey
    split at hkey
    · rename_i hml
      rw [if_pos hml]
      obtain ⟨level, hlevel, rfl⟩ := List.mem_map.mp hkey
      refine le_foldl_of_mem (fun m level => by split <;> omega) (fun m => ?_) _ hlevel
      obtain ⟨datum, hd⟩ := Option.isSome_iff_exists.mp hfound
      simp only [hd, Option.isNone_some, Bool.false_eq_true, if_false]
      omega
    · rename_i hml
      rw [if_neg hml]
      obtain ⟨ich, hich, rfl⟩ := List.mem_map.mp hkey
      split
      · rename_i hchannels
        have hnil : p.variable.channels = [] := List.length_eq_zero.mp hchannels
        have hname : getVariableNameWithChannel p.variable ich = p.variable.fullName := by
          simp [getVariableNameWithChannel, Variable.variable, Variable.fullName, hnil,
            hgroup p hp (by simpa using hml) hnil]
        rw [hname]
        omega
      · exact le_foldl_of_mem (fun m ich => by omega) (fun m => by omega) _ hich

/-- A line of the table whose label column is `width` characters wide: the label, then the
divider of the row (`" | "`) or of the rule (`"-+-"`); or the blank line after a page. -/
def Aligned (width : Nat) (line : String) : Prop :=
  line = "" ∨ ∃ label divider rest, line = label ++ divider ++ rest ∧ label.length = width ∧
    (divider = " | " ∨ divider = "-+-")

theorem aligned_setw {width : Nat} {label : String} (hlabel : label.length ≤ width) (rest : String) :
    Aligned width (setw width label ++ " | " ++ rest) := by
  refine .inr ⟨_, _, rest, rfl, ?_, .inl rfl⟩
  rw [length_setw, Int.toNat_natCast]
  omega

theorem aligned_separatorLine {width : Nat} {columnWidth : Int} {locGroup : List Int}
    {separator : String} (h : separatorLine width columnWidth locGroup = .ok separator) :
    Aligned width separator := by
  unfold separatorLine at h
  split at h
  · cases h
  · cases h
    exact .inr ⟨_, "-+-", _, rfl, by simp, .inr rfl⟩

theorem printPage_aligned {env : Env} {params : Parameters} {store : Store} {cache : Cache}
    {locGroup : List Int} {idxGroup : List Nat} {page : List String}
    (hgroup : ∀ p ∈ params.variables, isMultiLevelData p.variable = false →
      p.variable.channels = [] → p.variable.group ≠ "")
    (h : printPage env params store cache (getMaxVariableNameLength params cache) locGroup idxGroup =
      .ok page) :
    ∀ line ∈ page, Aligned (getMaxVariableNameLength params cache) line := by
  obtain ⟨separator, rows, hpage, hrows⟩ := printPage_rows h
  obtain ⟨separator', rest, hsep, hpage'⟩ := printPage_header h
  obtain rfl : separator = separator' := by
    rw [hpage'] at hpage
    simp only [List.cons_append, List.singleton_append, List.cons.injEq] at hpage
    exact hpage.2.1.symm
  intro line hline
  rw [hpage] at hline
  simp only [List.mem_append, List.mem_cons, List.mem_singleton, List.not_mem_nil, or_false]
    at hline
  rcases hline with ((rfl | rfl) | hrow) | rfl
  · exact aligned_setw (location_le_getMaxVariableNameLength params cache) _
  · exact aligned_separatorLine hsep
  · obtain ⟨kd, hkd, cells, rfl⟩ := forall₂_exists_mem hrows.flip line hrow
    obtain ⟨p, hp, hkp⟩ := List.mem_flatMap.mp hkd
    obtain ⟨hkey, hfound⟩ := mem_foundKeys.mp hkp
    exact aligned_setw (length_le_getMaxVariableNameLength hgroup hp hkey (by simp [hfound])) _
  · exact .inl rfl

/-- Every line `printAllData` writes has its label column `getMaxVariableNameLength()` wide:
the header, the rule and every row, on every page, once each channel-less field outside the
multi-level groups has a group. -/
theorem printAllData_aligned {env : Env} {params : Parameters} {store : Store} {cache : Cache}
    {globalNumLocs : Nat} {allGatherv : AllGatherv} {lines : List String}
    (hgroup : ∀ p ∈ params.variables, isMultiLevelData p.variable = false →
      p.variable.channels = [] → p.variable.group ≠ "")
    (h : printAllData env params store cache globalNumLocs allGatherv = .ok lines) :
    ∀ line ∈ lines, Aligned (getMaxVariableNameLength params cache) line := by
  obtain ⟨_, _, pages, rfl, hpages⟩ := printAllData_pages h
  intro line hline
  obtain ⟨page, hpage, hline⟩ := List.mem_flatten.mp hline
  obtain ⟨group, -, hgroupPage⟩ := forall₂_exists_mem hpages.flip page hpage
  exact printPage_aligned hgroup hgroupPage line hline

theorem printAllData_aligned_narrow :
    (∀ p ∈ narrowParams.variables, isMultiLevelData p.variable = false →
      p.variable.channels = [] → p.variable.group ≠ "") ∧
    printAllData sampleEnv narrowParams twoRowStore
        (writeFilterData Cache.empty (getAllData twoRowStore narrowParams.variables)) 2
        (gatherAll [twoRowStore]) =
      .ok ["  Location | 0 | 1 | ", "-----------+---+---+-", "ObsValue/x | 10 | 20 | ", ""] ∧
    ∀ line ∈ ["  Location | 0 | 1 | ", "-----------+---+---+-", "ObsValue/x | 10 | 20 | ", ""],
      Aligned (getMaxVariableNameLength narrowParams
        (writeFilterData Cache.empty (getAllData twoRowStore narrowParams.variables))) line :=
  have hgroup : ∀ p ∈ narrowParams.variables, isMultiLevelData p.variable = false →
      p.variable.channels = [] → p.variable.group ≠ "" := by decide
  have h : printAllData sampleEnv narrowParams twoRowStore
        (writeFilterData Cache.empty (getAllData twoRowStore narrowParams.variables)) 2
        (gatherAll [twoRowStore]) =
      .ok ["  Location | 0 | 1 | ", "-----------+---+---+-", "ObsValue/x | 10 | 20 | ", ""] := rfl
  ⟨hgroup, h, printAllData_aligned hgroup h⟩

end Ufo
