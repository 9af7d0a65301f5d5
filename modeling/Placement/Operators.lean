import Placement.Text.Basic

/-!
# Placement.Operators — which operators are known

Operators are known by name, in three lists: those that cross the network, those
that belong to the dataflow core, and those that end a flow. An operator may be
in several of them.
-/

namespace Placement

/-- The lists of known operators. -/
structure Operators where
  networking : List Text
  coreDataflow : List Text
  sinks : List Text
deriving DecidableEq, Repr

namespace Operators

/-- The operators that cross the network, unless configured otherwise. -/
def defaultNetworking : List Text :=
  ["send_bincode", "recv_bincode", "broadcast_bincode", "demux_bincode", "round_robin_bincode",
   "send_bincode_external", "recv_bincode_external", "send_bytes", "recv_bytes",
   "broadcast_bytes", "demux_bytes", "send_bytes_external", "recv_bytes_external", "connect",
   "disconnect"].map String.text

/-- The operators of the dataflow core, unless configured otherwise. -/
def defaultCoreDataflow : List Text :=
  ["map", "flat_map", "filter", "filter_map", "scan", "enumerate", "inspect", "unique", "sort",
   "fold", "reduce", "fold_keyed", "reduce_keyed", "reduce_watermark_commutative",
   "fold_commutative", "reduce_commutative", "fold_early_stop", "into_singleton", "into_stream",
   "into_keyed", "keys", "values", "entries", "collect_vec", "collect_ready", "all_ticks",
   "all_ticks_atomic", "join", "cross_product", "cross_singleton", "difference", "anti_join",
   "chain", "chain_first", "union", "concat", "zip", "defer_tick", "persist", "snapshot",
   "snapshot_atomic", "sample_every", "sample_eager", "timeout", "batch", "yield_concat",
   "source_iter", "source_stream", "source_stdin", "for_each", "dest_sink", "assert",
   "assert_eq", "dest_file", "tee", "clone", "unwrap", "unwrap_or", "filter_if_some",
   "filter_if_none", "resolve_futures", "resolve_futures_ordered", "tick", "atomic", "complete",
   "complete_next_tick", "first", "last"].map String.text

/-- The operators that end a flow, unless configured otherwise. -/
def defaultSinks : List Text :=
  ["for_each", "dest_sink", "assert", "assert_eq", "dest_file"].map String.text

/-- The lists that are used without configuration. -/
def standard : Operators := ⟨defaultNetworking, defaultCoreDataflow, defaultSinks⟩

/-- Whether an operator crosses the network. -/
def isNetworking (o : Operators) (name : Text) : Bool := o.networking.contains name

/-- Whether an operator is of the network or of the dataflow core. -/
def isKnown (o : Operators) (name : Text) : Bool :=
  o.isNetworking name || o.coreDataflow.contains name

/-- Whether an operator ends a flow. -/
def isSink (o : Operators) (name : Text) : Bool := o.sinks.contains name

/-! ## Changing lists -/

/-- The names of the three lists. -/
inductive Category where
  | networking
  | coreDataflow
  | sinks
deriving DecidableEq, Repr

/-- All lists, in the order in which they are shown. -/
def Category.all : List Category := [.networking, .coreDataflow, .sinks]

/-- What a list is called in settings. -/
def Category.name : Category → Text
  | .networking => "networking".text
  | .coreDataflow => "core_dataflow".text
  | .sinks => "sink".text

/-- The list with a name. -/
def Category.ofName? (t : Text) : Option Category := Category.all.find? fun c => c.name == t

/-- A list of operators. -/
def get (o : Operators) : Category → List Text
  | .networking => o.networking
  | .coreDataflow => o.coreDataflow
  | .sinks => o.sinks

/-- The lists with one of them replaced. -/
def set (o : Operators) (c : Category) (names : List Text) : Operators :=
  match c with
  | .networking => { o with networking := names }
  | .coreDataflow => { o with coreDataflow := names }
  | .sinks => { o with sinks := names }

/-- The lists with some of them replaced; nothing when a name is no list's. -/
def update? (o : Operators) : List (Text × List Text) → Option Operators
  | [] => some o
  | (name, names) :: more => (Category.ofName? name).bind fun c => (o.set c names).update? more

end Operators

end Placement
