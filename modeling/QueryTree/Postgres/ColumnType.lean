/-
This file holds the types of columns and parameters.
-/

namespace QueryTree.Postgres

/-- A type. Those that are never read or written are known by name only. -/
inductive ColumnType where
  | bool | bytea | name | int8 | int2 | int4 | text | oid | json | float4 | float8 | unknown
  | bpchar | varchar | date | timestamp | timestamptz | numeric | uuid | jsonb
  | other (label : String)
deriving DecidableEq, Repr

namespace ColumnType

def label : ColumnType → String
  | bool => "bool"
  | bytea => "bytea"
  | name => "name"
  | int8 => "int8"
  | int2 => "int2"
  | int4 => "int4"
  | text => "text"
  | oid => "oid"
  | json => "json"
  | float4 => "float4"
  | float8 => "float8"
  | unknown => "unknown"
  | bpchar => "bpchar"
  | varchar => "varchar"
  | date => "date"
  | timestamp => "timestamp"
  | timestamptz => "timestamptz"
  | numeric => "numeric"
  | uuid => "uuid"
  | jsonb => "jsonb"
  | other label => label

/-- The types that are read and written. -/
def supported : List ColumnType :=
  [bool, bytea, name, int8, int2, int4, text, oid, json, float4, float8, unknown, bpchar, varchar,
    date, timestamp, timestamptz, numeric, uuid, jsonb]

/-- The type of a name. -/
def ofLabel (label : String) : ColumnType :=
  (supported.find? fun type => type.label == label).getD (other label)

/-- The types that hold text. -/
def isText : ColumnType → Bool
  | text | varchar | bpchar | name | unknown => true
  | _ => false

end ColumnType

end QueryTree.Postgres
