import ScopeGateway.Toml.Document

/-!
No table of a document names anything twice. So a name looks up whatever entry it has, wherever that
stands in its table.
-/
namespace ScopeGateway.Toml

section
variable {α : Type} {entries : List (String × α)} {name : String} {a : α}

/-- No name stands twice. -/
def HasDistinctNames (entries : List (String × α)) : Prop := (entries.map Prod.fst).Nodup

theorem mem_of_lookup_eq_some (h : entries.lookup name = some a) : (name, a) ∈ entries := by
  obtain ⟨before, after, rfl, -⟩ := List.lookup_eq_some_iff.mp h
  simp

/-- Where no name stands twice, an entry is found by its name. -/
theorem lookup_eq_some_iff_mem (h : HasDistinctNames entries) :
    entries.lookup name = some a ↔ (name, a) ∈ entries := by
  refine ⟨mem_of_lookup_eq_some, fun hmem => List.lookup_eq_some_iff.mpr ?_⟩
  obtain ⟨before, after, rfl⟩ := List.append_of_mem hmem
  refine ⟨before, after, rfl, fun e he => ?_⟩
  rw [HasDistinctNames, List.map_append, List.nodup_append] at h
  exact bne_iff_ne.mpr (h.2.2 e.1 (List.mem_map_of_mem he) name (by simp)).symm

theorem lookup_eq_none_iff_not_mem :
    entries.lookup name = none ↔ name ∉ entries.map Prod.fst := by
  rw [List.lookup_eq_none_iff]
  simp only [bne_iff_ne, List.mem_map, not_exists, not_and]
  exact forall₂_congr fun e _ => ⟨Ne.symm, Ne.symm⟩

theorem HasDistinctNames.append_singleton (h : HasDistinctNames entries)
    (hname : name ∉ entries.map Prod.fst) : HasDistinctNames (entries ++ [(name, a)]) := by
  rw [HasDistinctNames, List.map_append, List.map_singleton, List.nodup_append]
  refine ⟨h, by simp, fun n hn m hm heq => hname ?_⟩
  obtain rfl : m = name := List.mem_singleton.mp hm
  exact heq ▸ hn

end

/-- No table inside of a value names anything twice. -/
inductive Value.IsProper : Value → Prop
  | text (s : String) : IsProper (.text s)
  | integer (n : Int) : IsProper (.integer n)
  | decimal (written : String) : IsProper (.decimal written)
  | boolean (b : Bool) : IsProper (.boolean b)
  | moment (written : String) : IsProper (.moment written)
  | array {items : List Value} : (∀ v ∈ items, v.IsProper) → IsProper (.array items)
  | table {entries : List (String × Value)} :
    HasDistinctNames entries → (∀ e ∈ entries, e.2.IsProper) → IsProper (.table entries)

/-- The same of a part of a document under construction. -/
inductive Node.IsProper : Node → Prop
  | leaf {v : Value} : v.IsProper → IsProper (.leaf v)
  | table {origin : Origin} {es : List (String × Node)} :
    HasDistinctNames es → (∀ e ∈ es, e.2.IsProper) → IsProper (.table origin es)
  | tables {ts : List (List (String × Node))} :
    (∀ es ∈ ts, HasDistinctNames es) → (∀ es ∈ ts, ∀ e ∈ es, e.2.IsProper) → IsProper (.tables ts)

namespace Entries

/-- No table at or below these entries names anything twice. -/
def AreProper (es : Entries) : Prop := HasDistinctNames es ∧ ∀ e ∈ es, e.2.IsProper

theorem areProper_nil : AreProper [] := ⟨List.nodup_nil, by simp⟩

end Entries

open Entries (AreProper)

namespace Node

variable {n : Node} {es : Entries} {ts : List Entries} {origin : Origin}

theorem isProper_table_iff : (Node.table origin es).IsProper ↔ es.AreProper :=
  ⟨fun | .table hnames hes => ⟨hnames, hes⟩, fun ⟨hnames, hes⟩ => .table hnames hes⟩

theorem isProper_tables_iff : (Node.tables ts).IsProper ↔ ∀ es ∈ ts, AreProper es := by
  constructor
  · rintro (_ | _ | ⟨hnames, hes⟩) es hmem
    exact ⟨hnames es hmem, hes es hmem⟩
  · exact fun h => .tables (fun es hmem => (h es hmem).1) fun es hmem => (h es hmem).2

theorem entryValues_eq_map (es : Entries) :
    entryValues es = es.map fun e => (e.1, e.2.value) := by
  induction es with
  | nil => rfl
  | cons e rest ih => rw [entryValues, ih, List.map_cons]

theorem elementValues_eq_map (ts : List Entries) :
    elementValues ts = ts.map fun es => .table (entryValues es) := by
  induction ts with
  | nil => rfl
  | cons es rest ih => rw [elementValues, ih, List.map_cons]

theorem isProper_tableValue {es : Entries} (hnames : HasDistinctNames es)
    (h : ∀ e ∈ es, e.2.value.IsProper) : (Value.table (entryValues es)).IsProper := by
  rw [entryValues_eq_map]
  refine .table ?_ ?_
  · rwa [HasDistinctNames, List.map_map]
  · rw [List.forall_mem_map]
    exact h

theorem IsProper.value (h : n.IsProper) : n.value.IsProper := by
  induction h with
  | leaf hv => exact hv
  | table hnames _ ih => exact isProper_tableValue hnames ih
  | tables hnames _ ih =>
    rw [Node.value, elementValues_eq_map]
    refine .array ?_
    rw [List.forall_mem_map]
    exact fun es hes => isProper_tableValue (hnames es hes) (ih es hes)

end Node

namespace Entries

variable {es out t : Entries} {ts : List Entries} {name : String} {n : Node} {v : Value}

theorem AreProper.get? (h : es.AreProper) (hn : es.get? name = some n) : n.IsProper :=
  h.2 _ (mem_of_lookup_eq_some hn)

theorem AreProper.of_get?_table {origin : Origin} (h : es.AreProper)
    (ht : es.get? name = some (.table origin t)) : AreProper t :=
  Node.isProper_table_iff.mp (h.get? ht)

theorem AreProper.of_get?_tables (h : es.AreProper) (hts : es.get? name = some (.tables ts)) :
    ∀ t ∈ ts, AreProper t :=
  Node.isProper_tables_iff.mp (h.get? hts)

theorem AreProper.set (h : es.AreProper) (hn : n.IsProper) : (es.set name n).AreProper := by
  unfold Entries.set
  split
  · have hsame : ((es.map fun e => if e.1 == name then (name, n) else e).map Prod.fst) =
        es.map Prod.fst := by
      rw [List.map_map]
      refine List.map_congr_left fun e _ => ?_
      by_cases he : e.1 = name <;> simp [he]
    constructor
    · rw [HasDistinctNames, hsame]
      exact h.1
    · rw [List.forall_mem_map]
      intro e he
      split
      · exact hn
      · exact h.2 e he
  · rename_i hnone
    rw [Option.not_isSome_iff_eq_none] at hnone
    refine ⟨h.1.append_singleton (lookup_eq_none_iff_not_mem.mp hnone), fun e he => ?_⟩
    obtain he | he := List.mem_append.mp he
    · exact h.2 e he
    · rw [List.mem_singleton.mp he]
      exact hn

theorem AreProper.set_table {origin : Origin} (h : es.AreProper) (ht : AreProper t) :
    (es.set name (.table origin t)).AreProper :=
  h.set (Node.isProper_table_iff.mpr ht)

theorem AreProper.set_tables (h : es.AreProper) (hts : ∀ t ∈ ts, AreProper t) :
    (es.set name (.tables ts)).AreProper :=
  h.set (Node.isProper_tables_iff.mpr hts)

theorem areProper_updateLast {f : Entries → Option Entries} {out : List Entries}
    (hf : ∀ es out, es.AreProper → f es = some out → out.AreProper)
    (hts : ∀ es ∈ ts, AreProper es) (h : updateLast f ts = some out) : ∀ es ∈ out, AreProper es := by
  induction ts using updateLast.induct generalizing out with
  | case1 => cases h
  | case2 last =>
    obtain ⟨new, hnew, rfl⟩ := Option.map_eq_some_iff.mp h
    rw [List.forall_mem_singleton]
    exact hf last new (hts last List.mem_cons_self) hnew
  | case3 first rest hrest ih =>
    rw [updateLast] at h
    · obtain ⟨new, hnew, rfl⟩ := Option.map_eq_some_iff.mp h
      rw [List.forall_mem_cons]
      exact ⟨hts first List.mem_cons_self,
        ih (fun es hes => hts es (List.mem_cons_of_mem _ hes)) hnew⟩
    · exact hrest

theorem areProper_addAt {path : List String} {origin : Origin} (hv : v.IsProper)
    (hes : es.AreProper) (h : addAt name v path origin es = some out) : out.AreProper := by
  induction path generalizing origin es out with
  | nil =>
    rw [addAt] at h
    split at h
    · cases h
    · obtain rfl := Option.some.inj h
      exact hes.set (.leaf hv)
  | cons p path ih =>
    rw [addAt] at h
    split at h
    · obtain ⟨t, ht, rfl⟩ := Option.map_eq_some_iff.mp h
      exact hes.set_table (ih areProper_nil ht)
    · cases h
    · cases h
    · rename_i hget
      obtain ⟨t, ht, rfl⟩ := Option.map_eq_some_iff.mp h
      exact hes.set_table (ih (hes.of_get?_table hget) ht)
    · rename_i hget
      obtain ⟨t, ht, rfl⟩ := Option.map_eq_some_iff.mp h
      exact hes.set_tables (areProper_updateLast (fun _ _ => ih) (hes.of_get?_tables hget) ht)

theorem areProper_updateAt {f : Entries → Option Entries} {path : List String}
    (hf : ∀ es out, es.AreProper → f es = some out → out.AreProper)
    (hes : es.AreProper) (h : updateAt f path es = some out) : out.AreProper := by
  induction path generalizing es out with
  | nil => exact hf es out hes h
  | cons p path ih =>
    rw [updateAt] at h
    split at h
    · obtain ⟨t, ht, rfl⟩ := Option.map_eq_some_iff.mp h
      exact hes.set_table (ih areProper_nil ht)
    · cases h
    · rename_i hget
      obtain ⟨t, ht, rfl⟩ := Option.map_eq_some_iff.mp h
      exact hes.set_table (ih (hes.of_get?_table hget) ht)
    · rename_i hget
      obtain ⟨t, ht, rfl⟩ := Option.map_eq_some_iff.mp h
      exact hes.set_tables (areProper_updateLast (fun _ _ => ih) (hes.of_get?_tables hget) ht)

theorem areProper_findAt {path : List String} (hes : es.AreProper)
    (h : findAt path es = some out) : out.AreProper := by
  induction path generalizing es with
  | nil =>
    obtain rfl := Option.some.inj h
    exact hes
  | cons p path ih =>
    rw [findAt] at h
    split at h
    · obtain rfl := Option.some.inj h
      exact areProper_nil
    · cases h
    · rename_i hget
      exact ih (hes.of_get?_table hget) h
    · rename_i hget
      obtain ⟨last, hlast, hfind⟩ := Option.bind_eq_some_iff.mp h
      exact ih (hes.of_get?_tables hget last (List.mem_of_getLast? hlast)) hfind

theorem AreProper.add {path : List String} (hes : es.AreProper) (hv : v.IsProper)
    (h : es.add path name v = some out) : out.AreProper :=
  areProper_addAt hv hes h

end Entries

/-- What holds no other values. -/
def Value.IsScalar : Value → Prop
  | .array _ | .table _ => False
  | _ => True

theorem Value.IsScalar.isProper {v : Value} (h : v.IsScalar) : v.IsProper := by
  cases v with
  | text s => exact .text s
  | integer n => exact .integer n
  | decimal written => exact .decimal written
  | boolean b => exact .boolean b
  | moment written => exact .moment written
  | array items => exact h.elim
  | table entries => exact h.elim

/-- What the reader gives holds no other values. -/
def ReadsScalars (read : Reader Value) : Prop :=
  ∀ {cs v rest}, read cs = some (v, rest) → v.IsScalar

theorem readsScalars_moment : ReadsScalars moment := by
  intro cs v rest h
  obtain ⟨r, -, heq⟩ := Option.map_eq_some_iff.mp h
  obtain ⟨rfl, -⟩ := Prod.mk.inj heq
  trivial

theorem readsScalars_decimal : ReadsScalars decimal := by
  intro cs v rest h
  obtain ⟨r, -, heq⟩ := Option.map_eq_some_iff.mp h
  obtain ⟨rfl, -⟩ := Prod.mk.inj heq
  trivial

theorem isScalar_of_fits {n : Int} {r rest : List Char} {v : Value}
    (h : (if fits n then some (Value.integer n, r) else none) = some (v, rest)) : v.IsScalar := by
  split at h
  · obtain ⟨rfl, -⟩ := Prod.mk.inj (Option.some.inj h)
    trivial
  · cases h

theorem readsScalars_radixInteger (radix : Nat) (isDigit : Char → Bool) :
    ReadsScalars (radixInteger radix isDigit) := by
  intro cs v rest h
  obtain ⟨⟨ds, r⟩, -, h⟩ := Option.bind_eq_some_iff.mp h
  exact isScalar_of_fits h

theorem readsScalars_integer : ReadsScalars integer := by
  intro cs v rest h
  unfold integer at h
  split at h
  · exact readsScalars_radixInteger _ _ h
  · exact readsScalars_radixInteger _ _ h
  · exact readsScalars_radixInteger _ _ h
  · obtain ⟨⟨ds, r⟩, -, h⟩ := Option.bind_eq_some_iff.mp h
    exact isScalar_of_fits h

theorem readsScalars_number : ReadsScalars number := by
  intro cs v rest h
  simp only [number, Option.or_eq_some_iff] at h
  obtain h | ⟨-, h | ⟨-, h⟩⟩ := h
  · exact readsScalars_moment h
  · exact readsScalars_decimal h
  · exact readsScalars_integer h

theorem readsScalars_word (written : String) {v : Value} (hv : v.IsScalar) :
    ReadsScalars (word written v) := by
  intro cs v' rest h
  unfold word at h
  split at h
  · obtain ⟨rfl, -⟩ := Prod.mk.inj (Option.some.inj h)
    exact hv
  · cases h

theorem readsScalars_scalarValue : ReadsScalars scalarValue := by
  intro cs v rest h
  unfold scalarValue at h
  split at h
  · obtain ⟨⟨s, r⟩, -, heq⟩ := Option.map_eq_some_iff.mp h
    obtain ⟨rfl, -⟩ := Prod.mk.inj heq
    trivial
  · obtain ⟨⟨s, r⟩, -, heq⟩ := Option.map_eq_some_iff.mp h
    obtain ⟨rfl, -⟩ := Prod.mk.inj heq
    trivial
  · exact readsScalars_word "true" (v := .boolean true) trivial h
  · exact readsScalars_word "false" (v := .boolean false) trivial h
  · exact readsScalars_number h

/-- What is read with so much fuel is proper: a value, the items of an array, and what the pairs of an
inline table make of proper entries. -/
structure ReadsProper (fuel : Nat) : Prop where
  value : ∀ {depth cs v rest}, value fuel depth cs = some (v, rest) → v.IsProper
  items : ∀ {depth cs vs rest}, items fuel depth cs = some (vs, rest) → ∀ v ∈ vs, v.IsProper
  pairs : ∀ {depth es cs out rest}, AreProper es → pairs fuel depth es cs = some (out, rest) →
    AreProper out

theorem readsProper (fuel : Nat) : ReadsProper fuel := by
  induction fuel with
  | zero => exact ⟨nofun, nofun, fun _ => nofun⟩
  | succ fuel ih =>
    refine ⟨fun {depth cs v rest} h => ?_, fun {depth cs vs rest} h => ?_,
      fun {depth es cs out rest} hes h => ?_⟩
    · unfold Toml.value at h
      split at h
      · split at h
        · cases h
        · obtain ⟨⟨vs, r⟩, hvs, heq⟩ := Option.bind_eq_some_iff.mp h
          obtain ⟨rfl, -⟩ := Prod.mk.inj (Option.some.inj heq)
          exact .array (ih.items hvs)
      · split at h
        · cases h
        · split at h
          · obtain ⟨rfl, -⟩ := Prod.mk.inj (Option.some.inj h)
            exact .table List.nodup_nil (by simp)
          · obtain ⟨⟨es, r⟩, hes, heq⟩ := Option.bind_eq_some_iff.mp h
            obtain ⟨rfl, -⟩ := Prod.mk.inj (Option.some.inj heq)
            exact (Node.isProper_table_iff.mpr
              (ih.pairs Entries.areProper_nil hes)).value
      · exact (readsScalars_scalarValue h).isProper
    · rw [Toml.items] at h
      obtain ⟨start, -, h⟩ := Option.bind_eq_some_iff.mp h
      split at h
      · obtain ⟨rfl, -⟩ := Prod.mk.inj (Option.some.inj h)
        simp
      · obtain ⟨⟨v, r⟩, hv, h⟩ := Option.bind_eq_some_iff.mp h
        obtain ⟨next, -, h⟩ := Option.bind_eq_some_iff.mp h
        split at h
        · obtain ⟨⟨later, r⟩, hlater, heq⟩ := Option.bind_eq_some_iff.mp h
          obtain ⟨rfl, -⟩ := Prod.mk.inj (Option.some.inj heq)
          rw [List.forall_mem_cons]
          exact ⟨ih.value hv, ih.items hlater⟩
        · obtain ⟨rfl, -⟩ := Prod.mk.inj (Option.some.inj h)
          rw [List.forall_mem_singleton]
          exact ih.value hv
        · cases h
    · rw [Toml.pairs] at h
      obtain ⟨⟨parts, r⟩, -, h⟩ := Option.bind_eq_some_iff.mp h
      obtain ⟨⟨_, r⟩, -, h⟩ := Option.bind_eq_some_iff.mp h
      obtain ⟨⟨v, r⟩, hv, h⟩ := Option.bind_eq_some_iff.mp h
      obtain ⟨added, hadded, h⟩ := Option.bind_eq_some_iff.mp h
      have hproper := hes.add (ih.value hv) hadded
      split at h
      · exact ih.pairs hproper h
      · obtain ⟨rfl, -⟩ := Prod.mk.inj (Option.some.inj h)
        exact hproper
      · cases h

namespace Draft

variable {d out : Draft} {cs rest : List Char}

/-- Neither the finished tables nor the current one name anything twice. -/
structure IsProper (d : Draft) : Prop where
  finished : AreProper d.finished
  current : AreProper d.current

theorem IsProper.close {es : Entries} (hd : d.IsProper) (h : d.close = some es) :
    AreProper es := by
  unfold Draft.close at h
  split at h
  · obtain rfl := Option.some.inj h
    exact hd.current
  · refine Entries.areProper_updateAt (fun es out hes hout => ?_) hd.finished h
    split at hout
    · split at hout
      · obtain rfl := Option.some.inj hout
        exact hes.set_tables (by simpa using hd.current)
      · rename_i ts hts
        obtain rfl := Option.some.inj hout
        refine hes.set_tables fun t ht => ?_
        obtain ht | ht := List.mem_append.mp ht
        · exact hes.of_get?_tables hts t ht
        · rw [List.mem_singleton.mp ht]
          exact hd.current
      · cases hout
    · obtain rfl := Option.some.inj hout
      exact hes.set_table hd.current

theorem IsProper.openTable {header : List String} (hd : d.IsProper)
    (h : d.openTable header = some out) : out.IsProper := by
  obtain ⟨finished, hclose, h⟩ := Option.bind_eq_some_iff.mp h
  obtain ⟨around, haround, h⟩ := Option.bind_eq_some_iff.mp h
  have hfinished := hd.close hclose
  split at h
  · obtain rfl := Option.some.inj h
    exact ⟨hfinished, Entries.areProper_nil⟩
  · rename_i hget
    obtain rfl := Option.some.inj h
    exact ⟨hfinished, (Entries.areProper_findAt hfinished haround).of_get?_table hget⟩
  · cases h

theorem IsProper.openElement {header : List String} (hd : d.IsProper)
    (h : d.openElement header = some out) : out.IsProper := by
  obtain ⟨finished, hclose, h⟩ := Option.bind_eq_some_iff.mp h
  obtain ⟨around, -, h⟩ := Option.bind_eq_some_iff.mp h
  split at h
  · obtain rfl := Option.some.inj h
    exact ⟨hd.close hclose, Entries.areProper_nil⟩
  · obtain rfl := Option.some.inj h
    exact ⟨hd.close hclose, Entries.areProper_nil⟩
  · cases h

theorem IsProper.header (hd : d.IsProper) (h : d.header cs = some (out, rest)) :
    out.IsProper := by
  unfold Draft.header at h
  split at h
  · obtain ⟨⟨parts, r⟩, -, h⟩ := Option.bind_eq_some_iff.mp h
    dsimp only at h
    split at h
    · obtain ⟨r, -, h⟩ := Option.bind_eq_some_iff.mp h
      obtain ⟨opened, hopened, heq⟩ := Option.bind_eq_some_iff.mp h
      obtain ⟨rfl, -⟩ := Prod.mk.inj (Option.some.inj heq)
      exact hd.openElement hopened
    · cases h
  · obtain ⟨⟨parts, r⟩, -, h⟩ := Option.bind_eq_some_iff.mp h
    dsimp only at h
    split at h
    · obtain ⟨r, -, h⟩ := Option.bind_eq_some_iff.mp h
      obtain ⟨opened, hopened, heq⟩ := Option.bind_eq_some_iff.mp h
      obtain ⟨rfl, -⟩ := Prod.mk.inj (Option.some.inj heq)
      exact hd.openTable hopened
    · cases h
  · cases h

theorem IsProper.assignment (hd : d.IsProper) (h : d.assignment cs = some (out, rest)) :
    out.IsProper := by
  obtain ⟨⟨parts, r⟩, -, h⟩ := Option.bind_eq_some_iff.mp h
  obtain ⟨⟨_, r⟩, -, h⟩ := Option.bind_eq_some_iff.mp h
  obtain ⟨⟨v, r⟩, hv, h⟩ := Option.bind_eq_some_iff.mp h
  obtain ⟨r, -, h⟩ := Option.bind_eq_some_iff.mp h
  obtain ⟨current, hcurrent, heq⟩ := Option.bind_eq_some_iff.mp h
  obtain ⟨rfl, -⟩ := Prod.mk.inj (Option.some.inj heq)
  exact ⟨hd.finished, hd.current.add ((readsProper _).value hv) hcurrent⟩

/-- Line by line a draft stays proper. -/
theorem IsProper.lines {fuel : Nat} (hd : d.IsProper) (h : d.lines fuel cs = some out) :
    out.IsProper := by
  induction fuel generalizing d cs with
  | zero => cases h
  | succ fuel ih =>
    rw [Draft.lines] at h
    split at h
    · obtain rfl := Option.some.inj h
      exact hd
    · obtain ⟨r, -, h⟩ := Option.bind_eq_some_iff.mp h
      exact ih hd h
    · exact ih hd h
    · obtain ⟨r, -, h⟩ := Option.bind_eq_some_iff.mp h
      exact ih hd h
    · obtain ⟨⟨next, r⟩, hnext, h⟩ := Option.bind_eq_some_iff.mp h
      exact ih (hd.header hnext) h
    · obtain ⟨⟨next, r⟩, hnext, h⟩ := Option.bind_eq_some_iff.mp h
      exact ih (hd.assignment hnext) h

end Draft

theorem exists_eq_table_of_parse {document : String} {v : Value} (h : parse document = some v) :
    ∃ entries, v = .table entries := by
  obtain ⟨draft, -, h⟩ := Option.bind_eq_some_iff.mp h
  obtain ⟨es, -, heq⟩ := Option.bind_eq_some_iff.mp h
  exact ⟨_, (Option.some.inj heq).symm⟩

/-- No table in a document names anything twice. -/
theorem isProper_of_parse {document : String} {v : Value} (h : parse document = some v) :
    v.IsProper := by
  obtain ⟨draft, hdraft, h⟩ := Option.bind_eq_some_iff.mp h
  obtain ⟨es, hes, heq⟩ := Option.bind_eq_some_iff.mp h
  obtain rfl := Option.some.inj heq
  have hempty : Draft.IsProper {} := ⟨Entries.areProper_nil, Entries.areProper_nil⟩
  exact (Node.isProper_table_iff.mpr ((hempty.lines hdraft).close hes)).value

end ScopeGateway.Toml
