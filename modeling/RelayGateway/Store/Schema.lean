/-! # Tables and their migrations

* `Schema`: the tables and indexes of a database, the migrations applied to it, and its user groups.
* `Step`: the migrations, each with the statements that apply and revert it.
* `Schema.up`, `Schema.down`: applies pending migrations in order, or reverts the last ones.
* `Schema.conflict`: what a stranger's table with an index of the same name does.

A migration that fails half-way is not recorded, but what it has done stays.
-/

set_option autoImplicit false

namespace RelayGateway

/-- An index of a table. -/
structure TableIndex where
  name : String
  table : String
  deriving DecidableEq

/-- The tables of a database. -/
structure Schema where
  tables : List String
  indexes : List TableIndex
  /-- The number of migrations applied. -/
  applied : Nat
  /-- The symbols of the user groups. -/
  groups : List String
  deriving DecidableEq

/-- A migration. -/
inductive Step where
  | channels
  | userGroups
  deriving DecidableEq

def Step.all : List Step := [.channels, .userGroups]

def Step.table : Step → String
  | .channels => "channels"
  | .userGroups => "user_groups"

/-- The columns of a table that a migration makes. -/
def Step.columns : Step → List String
  | .channels =>
    ["id", "channel_type", "name", "key", "base_url", "groups", "models", "weight", "priority",
      "status", "only_chat", "disabled_stream", "created_at", "updated_at"]
  | .userGroups =>
    ["id", "symbol", "name", "ratio", "public", "enabled", "created_at", "updated_at"]

namespace Schema

/-- The table in which the applied migrations are recorded. -/
def recordTable : String := "seaql_migrations"

def statusIndex : String := "idx_channels_status"

def vendorIndex : String := "idx_channels_type"

def fresh : Schema := ⟨[recordTable], [], 0, []⟩

def hasTable (schema : Schema) (name : String) : Bool := schema.tables.contains name

def addTable (schema : Schema) (name : String) : Schema :=
  if schema.hasTable name then schema else { schema with tables := schema.tables ++ [name] }

/-- Makes an index; names of indexes are unique in the whole database. -/
def addIndex (schema : Schema) (table name : String) : Bool × Schema :=
  if schema.indexes.any fun index => index.name == name then (false, schema)
  else (true, { schema with indexes := schema.indexes ++ [⟨name, table⟩] })

def dropTable (schema : Schema) (name : String) : Schema :=
  { schema with
    tables := schema.tables.filter fun table => table != name
    indexes := schema.indexes.filter fun index => index.table != name }

def addIndexes (schema : Schema) (table : String) : List String → Bool × Schema
  | [] => (true, schema)
  | name :: names =>
    match schema.addIndex table name with
    | (true, schema) => schema.addIndexes table names
    | (false, schema) => (false, schema)

/-- Adds the group of every user; there can be only one. -/
def addDefaultGroup (schema : Schema) : Bool × Schema :=
  if schema.groups.contains "default" then (false, schema)
  else (true, { schema with groups := schema.groups ++ ["default"] })

def apply (schema : Schema) (step : Step) : Bool × Schema :=
  let schema := schema.addTable step.table
  match step with
  | .channels => schema.addIndexes step.table [statusIndex, vendorIndex]
  | .userGroups => schema.addDefaultGroup

def revert (schema : Schema) (step : Step) : Schema :=
  let schema := schema.dropTable step.table
  match step with
  | .channels => schema
  | .userGroups => { schema with groups := [] }

def pending (schema : Schema) : List Step := Step.all.drop schema.applied

def applyAll (schema : Schema) : List Step → Bool × Schema
  | [] => (true, schema)
  | step :: steps =>
    match schema.apply step with
    | (true, schema) => applyAll { schema with applied := schema.applied + 1 } steps
    | (false, schema) => (false, schema)

def upTo (limit : Option Nat) (steps : List Step) : List Step :=
  match limit with
  | none => steps
  | some n => steps.take n

/-- Applies pending migrations, at most `limit` of them. -/
def up (schema : Schema) (limit : Option Nat) : Bool × Schema :=
  schema.applyAll (upTo limit schema.pending)

/-- Reverts the last migrations, at most `limit` of them. -/
def down (schema : Schema) (limit : Option Nat) : Schema :=
  (upTo limit (Step.all.take schema.applied).reverse).foldl
    (fun schema step => { schema.revert step with applied := schema.applied - 1 }) schema

/-- Somebody makes a table with an index that is named like the one on the status of channels. -/
def conflict (schema : Schema) : Bool × Schema :=
  (schema.addTable "other").addIndex "other" statusIndex

/-- The columns of the table of a migration, none if it is not there. -/
def columns (schema : Schema) (step : Step) : List String :=
  if schema.hasTable step.table then step.columns else []

/-- The user groups, if there is a table for them. -/
def groupSymbols? (schema : Schema) : Option (List String) :=
  if schema.hasTable Step.userGroups.table then some schema.groups else none

end Schema

end RelayGateway
