import RunConditions.Database.Server
import RunConditions.Proofs.Calendar
import RunConditions.Proofs.Sequence

/-!
# The rows of a server

What a cell shows is decided by the name of its type, and a cell that is null
shows nothing whatever its type is. A reading statement brings what the cells
show, row by row, or fails at the first cell of a type without values. A
changing statement brings the integers in the first places of the same rows.
-/

set_option autoImplicit false

namespace RunConditions.Server

def supportedTypes : List String :=
  ["INT2", "INT4", "INT8", "FLOAT4", "FLOAT8", "BOOL", "TEXT", "VARCHAR", "BPCHAR", "NAME", "CHAR",
    "TIMESTAMP", "TIMESTAMPTZ", "DATE"]

theorem contentOf_eq_unsupported_iff {type : String} :
    contentOf type = .unsupported ↔ type ∉ supportedTypes := by
  fun_cases contentOf type <;> simp_all [supportedTypes]

theorem Content.value?_eq_none_iff {content : Content} {raw : content.Raw} :
    content.value? raw = none ↔ content = .unsupported := by
  cases content <;> simp [value?]

namespace Cell

def heading (c : Cell) : String × String :=
  (c.column, c.type)

/-- What a cell shows. A date is sent as its day number, and a time as the microseconds that
have passed since the year 2000. -/
inductive Shows : Cell → Option Value → Prop
  | null (column type : String) : Shows ⟨column, type, none⟩ none
  | int2 (column : String) (n : Int) : Shows ⟨column, "INT2", some n⟩ (some (.integer n))
  | int4 (column : String) (n : Int) : Shows ⟨column, "INT4", some n⟩ (some (.integer n))
  | int8 (column : String) (n : Int) : Shows ⟨column, "INT8", some n⟩ (some (.integer n))
  | float4 (column : String) (x : Float32) :
      Shows ⟨column, "FLOAT4", some x⟩ (some (.float x.toFloat))
  | float8 (column : String) (x : Float) : Shows ⟨column, "FLOAT8", some x⟩ (some (.float x))
  | bool (column : String) (b : Bool) : Shows ⟨column, "BOOL", some b⟩ (some (.boolean b))
  | text (column s : String) : Shows ⟨column, "TEXT", some s⟩ (some (.text s))
  | varchar (column s : String) : Shows ⟨column, "VARCHAR", some s⟩ (some (.text s))
  | bpchar (column s : String) : Shows ⟨column, "BPCHAR", some s⟩ (some (.text s))
  | name (column s : String) : Shows ⟨column, "NAME", some s⟩ (some (.text s))
  | char (column s : String) : Shows ⟨column, "CHAR", some s⟩ (some (.text s))
  | timestamp (column : String) (n : Int) (t : Timestamp) (ht : t.Valid)
      (hn : t.elapsed = 1000 * n) : Shows ⟨column, "TIMESTAMP", some n⟩ (some (.timestamp t))
  | timestamptz (column : String) (n : Int) (t : Timestamp) (ht : t.Valid)
      (hn : t.elapsed = 1000 * n) : Shows ⟨column, "TIMESTAMPTZ", some n⟩ (some (.timestamp t))
  | date (column : String) (year : Int) (month day : Nat)
      (hdate : Timestamp.IsDate year month day) :
      Shows ⟨column, "DATE", some (Timestamp.dayNumber year month day)⟩
        (some (.timestamp (Timestamp.midnight year month day)))

def Readable (c : Cell) : Prop :=
  c.raw.isSome → c.type ∈ supportedTypes

def Unreadable (c : Cell) (fault : DatabaseFault) : Prop :=
  ¬ c.Readable ∧ fault = .unsupportedColumn c.type c.column

variable {c : Cell} {v : Option Value} {fault : DatabaseFault}

theorem Shows.decode (h : c.Shows v) : c.decode = .ok v := by
  cases h with
  | timestamp column n t ht hn | timestamptz column n t ht hn =>
    rw [← Timestamp.ofMicroseconds_eq_iff.mpr ⟨ht, hn⟩]
    rfl
  | date column year month day hdate =>
    rw [← Timestamp.ofDays_dayNumber hdate]
    rfl
  | _ => rfl

theorem exists_shows (h : c.Readable) : ∃ v, c.Shows v := by
  obtain ⟨column, type, _ | raw⟩ := c
  · exact ⟨none, .null column type⟩
  have htype : type ∈ supportedTypes := h rfl
  simp only [supportedTypes, List.mem_cons, List.not_mem_nil, or_false] at htype
  rcases htype with rfl | rfl | rfl | rfl | rfl | rfl | rfl | rfl | rfl | rfl | rfl | rfl | rfl |
    rfl
  · exact ⟨_, .int2 column raw⟩
  · exact ⟨_, .int4 column raw⟩
  · exact ⟨_, .int8 column raw⟩
  · exact ⟨_, .float4 column raw⟩
  · exact ⟨_, .float8 column raw⟩
  · exact ⟨_, .bool column raw⟩
  · exact ⟨_, .text column raw⟩
  · exact ⟨_, .varchar column raw⟩
  · exact ⟨_, .bpchar column raw⟩
  · exact ⟨_, .name column raw⟩
  · exact ⟨_, .char column raw⟩
  · exact ⟨_, .timestamp column raw _ (Timestamp.ofMicroseconds_valid raw)
      (Timestamp.elapsed_ofMicroseconds raw)⟩
  · exact ⟨_, .timestamptz column raw _ (Timestamp.ofMicroseconds_valid raw)
      (Timestamp.elapsed_ofMicroseconds raw)⟩
  · obtain ⟨year, month, day, hdate, rfl⟩ := Timestamp.exists_dayNumber raw
    exact ⟨_, .date column year month day hdate⟩

theorem Unreadable.decode (h : c.Unreadable fault) : c.decode = .error fault := by
  obtain ⟨hread, rfl⟩ := h
  obtain ⟨column, type, _ | raw⟩ := c
  · exact absurd (fun h => nomatch h) hread
  have htype : contentOf type = .unsupported :=
    contentOf_eq_unsupported_iff.mpr fun h => hread fun _ => h
  simp only [Cell.decode, Content.value?_eq_none_iff.mpr htype]

theorem exists_decode_iff : (∃ v, c.decode = .ok v) ↔ c.Readable := by
  constructor
  · rintro ⟨v, h⟩
    by_contra hread
    rw [Unreadable.decode ⟨hread, rfl⟩] at h
    cases h
  · intro hread
    obtain ⟨v, hv⟩ := exists_shows hread
    exact ⟨v, hv.decode⟩

theorem decode_eq_ok_iff : c.decode = .ok v ↔ c.Shows v := by
  constructor
  · intro h
    obtain ⟨w, hw⟩ := exists_shows (exists_decode_iff.mp ⟨v, h⟩)
    rw [hw.decode, Except.ok.injEq] at h
    exact h ▸ hw
  · exact Shows.decode

theorem decode_eq_error_iff : c.decode = .error fault ↔ c.Unreadable fault := by
  constructor
  · intro h
    have hread : ¬ c.Readable := by
      rw [← exists_decode_iff, h]
      simp
    rw [Unreadable.decode ⟨hread, rfl⟩, Except.error.injEq] at h
    exact ⟨hread, h.symm⟩
  · exact Unreadable.decode

end Cell

section Rows

variable {row : Row} {rows : List Row} {values : List (Option Value)} {result : ResultSet}
  {key : Int} {keys : List Int} {fault : DatabaseFault}

theorem decodeRow_eq_ok_iff : decodeRow row = .ok values ↔ List.Forall₂ Cell.Shows row values := by
  simp only [decodeRow, mapM_eq_ok_iff, Cell.decode_eq_ok_iff]

theorem exists_decodeRow_iff :
    (∃ values, decodeRow row = .ok values) ↔ ∀ cell ∈ row, cell.Readable := by
  simp only [decodeRow, exists_mapM_iff, Cell.exists_decode_iff]

theorem decodeRow_eq_error_iff :
    decodeRow row = .error fault ↔ FirstFailure Cell.Readable Cell.Unreadable row fault := by
  simp only [decodeRow, mapM_eq_error_iff, Cell.exists_decode_iff, Cell.decode_eq_error_iff]

theorem decodeRows_eq (rows : List Row) :
    decodeRows rows = (rows.mapM decodeRow).map fun values =>
      { columns := (rows.head?.getD []).map Cell.column, rows := values } := by
  rw [map_eq_bind, decodeRows]

theorem decodeRows_eq_ok_iff :
    decodeRows rows = .ok result ↔
      result.columns = (rows.head?.getD []).map Cell.column ∧
        List.Forall₂ (List.Forall₂ Cell.Shows) rows result.rows := by
  have hrows : rows.mapM decodeRow = .ok result.rows ↔
      List.Forall₂ (List.Forall₂ Cell.Shows) rows result.rows := by
    simp only [mapM_eq_ok_iff, decodeRow_eq_ok_iff]
  obtain ⟨columns, values⟩ := result
  rw [← hrows, decodeRows_eq]
  cases rows.mapM decodeRow with
  | error e => simp [Except.map]
  | ok values' => simp [Except.map, eq_comm]

theorem exists_decodeRows_iff :
    (∃ result, decodeRows rows = .ok result) ↔ ∀ row ∈ rows, ∀ cell ∈ row, cell.Readable := by
  simp only [← exists_decodeRow_iff, ← exists_mapM_iff, decodeRows_eq]
  cases rows.mapM decodeRow <;> simp [Except.map]

theorem decodeRows_eq_error_iff :
    decodeRows rows = .error fault ↔
      FirstFailure Cell.Readable Cell.Unreadable rows.flatten fault := by
  rw [decodeRows_eq, map_eq_error_iff, mapM_eq_error_iff, firstFailure_flatten_iff]
  exact firstFailure_congr (fun _ => exists_decodeRow_iff) (fun _ _ => decodeRow_eq_error_iff)

theorem decodeKey_eq_ok_iff :
    decodeKey row = .ok key ↔
      ∃ values, decodeRow row = .ok values ∧ values.head? = some (some (.integer key)) := by
  unfold decodeKey
  cases decodeRow row with
  | error e => simp [bind, Except.bind]
  | ok values =>
    simp only [bind, Except.bind, Except.ok.injEq, exists_eq_left']
    split <;> simp_all

theorem decodeKeys_eq_ok_iff :
    decodeKeys rows = .ok keys ↔
      ∃ result, decodeRows rows = .ok result ∧
        List.Forall₂ (fun values key => values.head? = some (some (.integer key)))
          result.rows keys := by
  simp only [decodeKeys, mapM_eq_ok_iff, decodeKey_eq_ok_iff, forall₂_exists_iff, decodeRows_eq]
  simp only [← mapM_eq_ok_iff]
  cases rows.mapM decodeRow <;> simp [Except.map]

end Rows

namespace Connection

section Reply

variable {α : Type} {decode : List Row → Except DatabaseFault α} {c : Connection} {sql : String}
  {s : State} {rows : List Row}

theorem send_of_reply (hopen : c.closed = false) (hreply : s.reply sql = .ok rows) :
    (c.send decode sql s).1 = (decode rows).mapError (.query sql) := by
  rw [send, hopen, hreply]
  rfl

theorem send_eq_ok_iff (hopen : c.closed = false) (hreply : s.reply sql = .ok rows) {a : α} :
    (c.send decode sql s).1 = .ok a ↔ decode rows = .ok a := by
  rw [send_of_reply hopen hreply]
  cases decode rows <;> simp [Except.mapError]

theorem send_eq_error_iff (hopen : c.closed = false) (hreply : s.reply sql = .ok rows)
    {e : Error} :
    (c.send decode sql s).1 = .error e ↔
      ∃ fault, decode rows = .error fault ∧ e = .query sql fault := by
  rw [send_of_reply hopen hreply]
  cases decode rows <;> simp [Except.mapError, eq_comm]

end Reply

theorem columns_of_heading {rows : List Row} {header : List (String × String)}
    (hcols : ∀ row ∈ rows, row.map Cell.heading = header) :
    (rows.head?.getD []).map Cell.column = if rows = [] then [] else header.map Prod.fst := by
  cases rows with
  | nil => rfl
  | cons row rows =>
    rw [← hcols row List.mem_cons_self, List.map_map]
    rfl

/-- The rows of a reply are read if no cell is unreadable, each cell for what it shows and each row
under the columns of all, and otherwise the first unreadable cell is the fault of the statement.
Changing statements bring the integers at the heads of the rows that are read. -/
theorem select_and_update {c : Connection} {sql : String} {s : State} {rows : List Row}
    {header : List (String × String)} (hopen : c.closed = false)
    (hreply : s.reply sql = .ok rows) (hcols : ∀ row ∈ rows, row.map Cell.heading = header) :
    ((∃ result, (c.select sql s).1 = .ok result) ↔
      ∀ row ∈ rows, ∀ cell ∈ row, cell.Readable) ∧
    (∀ result, (c.select sql s).1 = .ok result ↔
      result.columns = (if rows = [] then [] else header.map Prod.fst) ∧
        List.Forall₂ (List.Forall₂ Cell.Shows) rows result.rows) ∧
    (∀ result, (c.select sql s).1 = .ok result →
      ∀ values ∈ result.rows, values.length = header.length) ∧
    (∀ e, (c.select sql s).1 = .error e ↔
      ∃ fault, FirstFailure Cell.Readable Cell.Unreadable rows.flatten fault ∧
        e = .query sql fault) ∧
    ∀ keys, (c.update sql s).1 = .ok keys ↔
      ∃ result, (c.select sql s).1 = .ok result ∧
        List.Forall₂ (fun values key => values.head? = some (some (.integer key)))
          result.rows keys := by
  simp only [select, update, send_eq_ok_iff hopen hreply, send_eq_error_iff hopen hreply]
  refine ⟨exists_decodeRows_iff, fun result => ?_, fun result hresult values hvalues => ?_,
    fun e => ?_, fun keys => decodeKeys_eq_ok_iff⟩
  · rw [decodeRows_eq_ok_iff, columns_of_heading hcols]
  · obtain ⟨row, hrow, hshows⟩ := exists_of_forall₂ (decodeRows_eq_ok_iff.mp hresult).2 hvalues
    rw [← hshows.length_eq, ← hcols row hrow, List.length_map]
  · simp only [decodeRows_eq_error_iff]

theorem leap_day_read :
    let sql := "SELECT id, taken, extra FROM runs"
    let rows : List Row :=
      [[⟨"id", "INT4", some (7 : Int)⟩, ⟨"taken", "DATE", some (5903 : Int)⟩,
          ⟨"extra", "JSONB", none⟩],
        [⟨"id", "INT4", some (-8 : Int)⟩, ⟨"taken", "DATE", none⟩, ⟨"extra", "JSONB", none⟩]]
    let result : ResultSet :=
      { columns := ["id", "taken", "extra"]
        rows :=
          [[some (.integer 7), some (.timestamp (.midnight 2016 2 29)), none],
            [some (.integer (-8)), none, none]] }
    let s : State := { replies := [{ pattern := .exactly sql, rows }] }
    let c : Connection := { target := "here" }
    (c.select sql s).1 = .ok result ∧ (c.update sql s).1 = .ok [7, -8] := by
  intro sql rows result s c
  have hopen : c.closed = false := rfl
  have hreply : s.reply sql = .ok rows := rfl
  have hcols : ∀ row ∈ rows,
      row.map Cell.heading = [("id", "INT4"), ("taken", "DATE"), ("extra", "JSONB")] := by
    simp [rows, Cell.heading]
  obtain ⟨-, hselect, -, -, hupdate⟩ := select_and_update hopen hreply hcols
  have hdate : Timestamp.IsDate 2016 2 29 := ⟨by decide, by decide, by decide, by decide⟩
  have hread : (c.select sql s).1 = .ok result :=
    (hselect result).mpr ⟨rfl,
      .cons (.cons (.int4 "id" 7) (.cons (.date "taken" 2016 2 29 hdate)
        (.cons (.null "extra" "JSONB") .nil)))
      (.cons (.cons (.int4 "id" (-8)) (.cons (.null "taken" "DATE")
        (.cons (.null "extra" "JSONB") .nil))) .nil)⟩
  exact ⟨hread, (hupdate [7, -8]).mpr ⟨result, hread, .cons rfl (.cons rfl .nil)⟩⟩

end Connection
end RunConditions.Server
