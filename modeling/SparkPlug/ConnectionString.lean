import SparkPlug.Library.Authority

/-!
Connection strings of Spark Connect, sc://host[:port]/;key=value;… An IPv6 literal is
bracketed, and the port is 15002 where none is written.
-/
namespace SparkPlug
open Text Authority

def connectScheme : List Char := "sc://".toList

def connectPort : Nat := 15002

structure Connection where
  host : Host
  port : Option Nat
  params : List (List Char × List Char)
  deriving DecidableEq

/-- The parameters behind the authority, each with a semicolon before it. -/
def readParams (text : List Char) : Option (List (List Char × List Char)) :=
  match text.splitOn ';' with
  | [] :: params => params.mapM (splitOnceChars '=')
  | _ => none

def writeParams (params : List (List Char × List Char)) : List Char :=
  params.flatMap fun p => ';' :: (p.1 ++ '=' :: p.2)

/-- The path may be left out when there are no parameters. -/
def readConnection (text : List Char) : Option Connection :=
  if connectScheme.isPrefixOf text = true then
    let address := text.drop connectScheme.length
    let (authority, params) := (splitOnceChars '/' address).getD (address, [])
    (Authority.read authority).bind fun (host, port) =>
      (readParams params).map fun params => { host, port, params }
  else none

/-- The bearer tokens of a session are those of its connection and of its interceptors. -/
structure ConnectSession where
  host : Host
  port : Nat
  tls : Bool
  bearers : List (List Char)
  deriving DecidableEq

def Connection.session (connection : Connection) (interceptors : List (List Char)) :
    ConnectSession :=
  { host := connection.host
    port := connection.port.getD connectPort
    tls := connection.params.lookup "use_ssl".toList = some "true".toList
    bearers := (connection.params.lookup "token".toList).toList ++ interceptors }

/- Parameters. -/

theorem split_params (first : List Char) {params : List (List Char × List Char)}
    (plain : ';' ∉ first) (parts : ∀ p ∈ params, ';' ∉ p.1 ++ '=' :: p.2) :
    (first ++ writeParams params).splitOn ';' =
      first :: params.map fun p => p.1 ++ '=' :: p.2 := by
  induction params generalizing first with
  | nil => simp [writeParams, List.splitOn_eq_singleton plain]
  | cons p params ih =>
    have rest := ih _ (parts p List.mem_cons_self) fun q hq => parts q (List.mem_cons_of_mem p hq)
    have layout : first ++ writeParams (p :: params) =
        first ++ ';' :: ((p.1 ++ '=' :: p.2) ++ writeParams params) := by
      simp [writeParams]
    rw [layout, List.splitOn_append_cons_self, List.splitOn_eq_singleton plain, rest]
    rfl

theorem keyed_params {params : List (List Char × List Char)} (keys : ∀ p ∈ params, '=' ∉ p.1) :
    (params.map fun p => p.1 ++ '=' :: p.2).mapM (splitOnceChars '=') = some params := by
  induction params with
  | nil => rfl
  | cons p params ih =>
    have here := split_once_chars_at '=' p.1 p.2 (keys p List.mem_cons_self)
    have rest := ih fun q hq => keys q (List.mem_cons_of_mem p hq)
    simp [here, rest]

theorem read_write_params (params : List (List Char × List Char))
    (keys : ∀ k ∈ params.map Prod.fst, ';' ∉ k ∧ '=' ∉ k)
    (values : ∀ v ∈ params.map Prod.snd, ';' ∉ v) :
    readParams (writeParams params) = some params := by
  have parts : ∀ p ∈ params, ';' ∉ p.1 ++ '=' :: p.2 := by
    intro p member
    have key := (keys p.1 (List.mem_map_of_mem member)).1
    have value := values p.2 (List.mem_map_of_mem member)
    simp [key, value]
  have split := split_params [] List.not_mem_nil parts
  rw [List.nil_append] at split
  unfold readParams
  rw [split]
  exact keyed_params fun p member => (keys p.1 (List.mem_map_of_mem member)).2

theorem map_m_member {parts : List (List Char)} {params : List (List Char × List Char)}
    (read : parts.mapM (splitOnceChars '=') = some params) {key value : List Char}
    (member : (key, value) ∈ params) : key ++ '=' :: value ∈ parts := by
  induction parts generalizing params with
  | nil =>
    cases read
    cases member
  | cons part parts ih =>
    simp only [List.mapM_cons, Option.bind_eq_bind, Option.pure_def, Option.bind_eq_some_iff,
      Option.some.injEq] at read
    obtain ⟨p, first, rest, later, rfl⟩ := read
    rcases List.mem_cons.mp member with rfl | further
    · rw [(split_once_chars_some first).2]
      exact List.mem_cons_self
    · exact List.mem_cons_of_mem part (ih later further)

/-- A semicolon ends a value. -/
theorem param_plain {text : List Char} {params : List (List Char × List Char)}
    (read : readParams text = some params) {key value : List Char}
    (found : params.lookup key = some value) : ';' ∉ value := by
  obtain ⟨front, back, rfl, _⟩ := List.lookup_eq_some_iff.mp found
  unfold readParams at read
  split at read
  · rename_i parts split
    have member : (key, value) ∈ front ++ (key, value) :: back := by simp
    have part := map_m_member read member
    have plain := mem_split_on (split ▸ List.mem_cons_of_mem [] part)
    intro inside
    exact plain (by simp [inside])
  · cases read

/- Connections. -/

theorem read_connection_bare {authority : List Char} (plain : '/' ∉ authority) :
    readConnection (connectScheme ++ authority) =
      (Authority.read authority).map fun address => ⟨address.1, address.2, []⟩ := by
  unfold readConnection
  rw [if_pos (List.isPrefixOf_iff_prefix.mpr (List.prefix_append ..)), List.drop_left]
  simp only [split_once_chars_none plain, Option.getD_none]
  have none : readParams [] = some [] := by decide
  simp only [none, Option.map_some]
  cases Authority.read authority <;> rfl

theorem read_connection_params {authority : List Char} (plain : '/' ∉ authority)
    (params : List Char) :
    readConnection (connectScheme ++ (authority ++ '/' :: params)) =
      (Authority.read authority).bind fun address =>
        (readParams params).map fun params => ⟨address.1, address.2, params⟩ := by
  unfold readConnection
  rw [if_pos (List.isPrefixOf_iff_prefix.mpr (List.prefix_append ..)), List.drop_left]
  simp only [split_once_chars_at '/' authority params plain, Option.getD_some]

/-- No session presents a token with a semicolon that it has from its connection string. -/
theorem connection_plain {text : List Char} {connection : Connection}
    (read : readConnection text = some connection) {key value : List Char}
    (found : connection.params.lookup key = some value) : ';' ∉ value := by
  unfold readConnection at read
  split at read
  · simp only [Option.bind_eq_some_iff, Option.map_eq_some_iff] at read
    obtain ⟨_, _, params, readable, rfl⟩ := read
    exact param_plain readable found
  · cases read

end SparkPlug
