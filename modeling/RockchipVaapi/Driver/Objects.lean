import RockchipVaapi.Misc.References.Program

/-!
# The objects of the driver

The reference-counted objects of the driver, and the two records that own a reference to a surface
(`RKDecodeJob` and `RKFrameRoute`, whose only reference is their owner's). A place is an entry of
one of the five heaps or a field that holds references.
-/

namespace RockchipVaapi.Driver
open References

/-- What an object is. `is_encoder` of a context is fixed when it is made. -/
inductive Kind
  | config
  | encoder
  | decoder
  | surface
  | buffer
  | image
  /-- `RKDecodePool` -/
  | pool
  /-- `RKDecodeJob` -/
  | job
  /-- `RKFrameRoute` -/
  | route
  deriving DecidableEq, Repr

/-- The heaps of `RKDriver` (`driver_internal.h:253-260`). -/
inductive Heap
  | config
  | context
  | surface
  | buffer
  | image
  deriving DecidableEq, Repr

def Kind.heap : Kind → Option Heap
  | .config => some .config
  | .encoder | .decoder => some .context
  | .surface => some .surface
  | .buffer => some .buffer
  | .image => some .image
  | .pool | .job | .route => none

/-- An object: its kind, and a name (the address, which is not used again). -/
structure Obj where
  kind : Kind
  name : Nat
  deriving DecidableEq, Repr

/-- The fields that hold references (`driver_internal.h:54-240`). -/
inductive Field
  | targets
  | renderSurface
  | contextPool
  | jobs
  | h264Routes
  | genericRoutes
  | surfacePool
  | jobSurface
  | routeSurface
  | imageBuffer
  | derivedSurface
  deriving DecidableEq, Repr

/-- Whether objects of a kind have a field. -/
def Field.of : Field → Kind → Bool
  | .targets, kind | .renderSurface, kind | .contextPool, kind => kind == .encoder || kind == .decoder
  | .jobs, kind | .h264Routes, kind | .genericRoutes, kind => kind == .decoder
  | .surfacePool, kind => kind == .surface
  | .jobSurface, kind => kind == .job
  | .routeSurface, kind => kind == .route
  | .imageBuffer, kind => kind == .image
  | .derivedSurface, kind => kind == .buffer

/-- What a field refers to. -/
def Field.refersTo : Field → Kind
  | .targets | .renderSurface | .jobSurface | .routeSurface | .derivedSurface => .surface
  | .contextPool | .surfacePool => .pool
  | .jobs => .job
  | .h264Routes | .genericRoutes => .route
  | .imageBuffer => .buffer

def Field.shape : Field → Shape
  | .renderSurface | .contextPool | .surfacePool => .cell
  | .targets | .jobs | .h264Routes | .genericRoutes => .queue
  | .jobSurface | .routeSurface | .imageBuffer | .derivedSurface => .once

def Field.all : List Field :=
  [.targets, .renderSurface, .contextPool, .jobs, .h264Routes, .genericRoutes, .surfacePool,
    .jobSurface, .routeSurface, .imageBuffer, .derivedSurface]

inductive Place
  | slot (heap : Heap) (id : UInt32)
  | field (f : Field) (o : Obj)
  deriving DecidableEq, Repr

def Kind.rank : Kind → Nat
  | .config | .pool => 0
  | .surface => 1
  | .buffer | .job | .route => 2
  | .image | .encoder | .decoder => 3

/-- Where references are kept. `rk_object_ref` refuses a counter of `UINT_MAX`. -/
def layout : Layout Obj Place Heap where
  owner
    | .slot _ _ => none
    | .field _ o => some o
  fields o := (Field.all.filter fun f => f.of o.kind).map fun f => .field f o
  shape
    | .slot _ _ => .entry
    | .field f _ => f.shape
  table
    | .slot heap _ => some heap
    | .field _ _ => none
  fits
    | .slot heap _, x => x.kind.heap == some heap
    | .field f o, x => f.of o.kind && x.kind == f.refersTo
  rank o := o.kind.rank
  top := 4
  lends o := o.kind == .decoder
  limit := 2 ^ 32 - 1

end RockchipVaapi.Driver
