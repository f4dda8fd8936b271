import GrammarLayout.Json.Record
import GrammarLayout.Sink

/-!
# Models as written

A document declares interfaces and classes and gives a schedule. It refers to interfaces and
classes by name; nothing has been looked up yet.
-/

namespace GrammarLayout.Model

open Json

/-- A class whose interface and child interfaces are names. -/
structure ClassDeclaration where
  name : String
  interface : String
  fields : Properties := .empty
  attributes : Properties := .empty
  children : OrderedMap String String := .empty
  deriving DecidableEq

structure Document where
  interfaces : List Interface := []
  classes : List ClassDeclaration := []
  schedule : OrderedMap String (List String) := .empty
  deriving DecidableEq

-- Each record is read into its parts, of which those not given yet are missing.

structure PropertyParts where
  type : Option String := none
  maybe : Option Bool := none

def propertyShape : RecordShape PropertyParts Property where
  name := "RawProperty"
  fields := [
    ⟨"type", fun p => p.type.isSome, fun p => text.map fun t => { p with type := some t }⟩,
    ⟨"maybe", fun p => p.maybe.isSome, fun p => boolean.map fun b => { p with maybe := some b }⟩]
  blank := {}
  build p :=
    match p.type with
    | none => .error "type"
    | some type => .ok ⟨type, p.maybe.getD false⟩

def properties : Reader Properties := map propertyShape.read

structure InterfaceParts where
  name : Option String := none
  inputs : Option Properties := none
  attributes : Option Properties := none
  fields : Option Properties := none

def interfaceShape : RecordShape InterfaceParts Interface where
  name := "RawInterface"
  fields := [
    ⟨"name", fun p => p.name.isSome, fun p => text.map fun t => { p with name := some t }⟩,
    ⟨"inputs", fun p => p.inputs.isSome,
      fun p => properties.map fun ps => { p with inputs := some ps }⟩,
    ⟨"attributes", fun p => p.attributes.isSome,
      fun p => properties.map fun ps => { p with attributes := some ps }⟩,
    ⟨"fields", fun p => p.fields.isSome,
      fun p => properties.map fun ps => { p with fields := some ps }⟩]
  blank := {}
  build p :=
    match p.name with
    | none => .error "name"
    | some name =>
      .ok ⟨name, p.inputs.getD .empty, p.attributes.getD .empty, p.fields.getD .empty⟩

structure ClassParts where
  name : Option String := none
  interface : Option String := none
  fields : Option Properties := none
  attributes : Option Properties := none
  children : Option (OrderedMap String String) := none

def classShape : RecordShape ClassParts ClassDeclaration where
  name := "RawClass"
  fields := [
    ⟨"name", fun p => p.name.isSome, fun p => text.map fun t => { p with name := some t }⟩,
    ⟨"interface", fun p => p.interface.isSome,
      fun p => text.map fun t => { p with interface := some t }⟩,
    ⟨"fields", fun p => p.fields.isSome,
      fun p => properties.map fun ps => { p with fields := some ps }⟩,
    ⟨"attributes", fun p => p.attributes.isSome,
      fun p => properties.map fun ps => { p with attributes := some ps }⟩,
    ⟨"children", fun p => p.children.isSome,
      fun p => (map text).map fun m => { p with children := some m }⟩]
  blank := {}
  build p :=
    match p.name, p.interface with
    | none, _ => .error "name"
    | _, none => .error "interface"
    | some name, some interface =>
      .ok ⟨name, interface, p.fields.getD .empty, p.attributes.getD .empty,
        p.children.getD .empty⟩

structure DocumentParts where
  interfaces : Option (List Interface) := none
  classes : Option (List ClassDeclaration) := none
  schedule : Option (OrderedMap String (List String)) := none

def documentShape : RecordShape DocumentParts Document where
  name := "RawModel"
  fields := [
    ⟨"interfaces", fun p => p.interfaces.isSome,
      fun p => (list interfaceShape.read).map fun is => { p with interfaces := some is }⟩,
    ⟨"classes", fun p => p.classes.isSome,
      fun p => (list classShape.read).map fun cs => { p with classes := some cs }⟩,
    ⟨"schedule", fun p => p.schedule.isSome,
      fun p => (map (list text)).map fun m => { p with schedule := some m }⟩]
  blank := {}
  build p :=
    .ok ⟨p.interfaces.getD [], p.classes.getD [], p.schedule.getD .empty⟩

def Document.ofJson (json : String) : Except TextError Document :=
  document documentShape.read json.toList

end GrammarLayout.Model
