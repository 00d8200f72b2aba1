import CrudScaffold.Boilerplate.Endpoint

set_option autoImplicit false

/-! # Files of a plain resource

The texts of the files of a resource that can be created, read, changed and deleted. -/

namespace CrudScaffold.Boilerplate

open Slot

/-- The schema of a model. -/
def schema : Template :=
  Template.ofLines
    [["import mongoose from 'mongoose';"],
     [],
     ["const ", modelName, "Schema = new mongoose.Schema(\x7b"],
     [schemaFields],
     ["\x7d, \x7b timestamps: true \x7d);"],
     [],
     ["export default mongoose.model('", modelPascal, "', ", modelName, "Schema);"]]

/-- The rules for new data and for changes. -/
def validation : Template :=
  Template.ofLines
    [["import joi from \"joi\";"],
     [],
     ["export default function ", modelName, "Validation(body)\x7b"],
     ["    const ", modelName, "Create = joi.object(\x7b"],
     ["    ", createRules],
     ["    \x7d)"],
     [],
     ["    const ", modelName, "Update = joi.object(\x7b"],
     ["    ", updateRules],
     ["    \x7d)"],
     [],
     ["    return \x7b"],
     ["        ", modelName, "Create: ", modelName, "Create.validate(body),"],
     ["        ", modelName, "Update: ", modelName, "Update.validate(body),"],
     ["    \x7d"],
     ["\x7d"]]

/-! ## Endpoints -/

/-- Stores a new resource. -/
def create : Endpoint where
  name := ["create", modelPascal]
  arrow := "(req,res)=>"
  body :=
    Template.ofLines
      [["\x7b"],
       ["    try \x7b"],
       ["        const \x7bbody\x7d = req"],
       ["        if(!body)\x7b"],
       ["            return res.status(400).json(\x7bmessage: \"No data in the request\"\x7d)"],
       ["        \x7d"],
       ["        const \x7berror\x7d = ", modelName, "Validation(body).", modelName, "Create"],
       ["        if(error)\x7b"],
       ["            return res.status(401).json(error.details[0].message)"],
       ["        \x7d"],
       ["        const ", modelName, " = new ", modelPascal, "(body)"],
       ["        const new", modelPascal, " = await ", modelName, ".save()"],
       ["        return res.status(201).json(new", modelPascal, ")"],
       ["    \x7d catch (error) \x7b"],
       ["        console.log(error)"],
       ["        res.status(500).json(\x7bmessage: \"Server error\", error: error\x7d)"],
       ["    \x7d"],
       ["\x7d"]]
  verb := "post"
  path := "/new"

/-- Lists all resources. -/
def getAll : Endpoint where
  name := ["getAll", modelPascal, "s"]
  arrow := "(req, res) => "
  body :=
    Template.ofLines
      [["\x7b"],
       ["    try \x7b"],
       ["        const ", modelPlural, " = await ", modelPascal, ".find()"],
       ["        return res.status(200).json(", modelPlural, ")"],
       ["    \x7d catch (error) \x7b"],
       ["        console.log(error)"],
       ["        res.status(500).json(\x7bmessage: \"Server error\", error: error\x7d)"],
       ["    \x7d"],
       ["\x7d"]]
  verb := "get"
  path := "/all"

/-- Shows one resource. -/
def getById : Endpoint where
  name := ["get", modelPascal, "ById"]
  arrow := "(req,res) => "
  body :=
    Template.ofLines
      [["\x7b"],
       ["    try \x7b"],
       ["        const ", modelName, " = await ", modelPascal, ".findById(req.params.id)"],
       ["        if(!", modelName, ")\x7b"],
       ["            return res.status(404).json(\x7bmessage: \"", modelName,
        " doesn't exist\"\x7d)"],
       ["        \x7d"],
       ["        return res.status(200).json(", modelName, ")"],
       ["    \x7d catch (error) \x7b"],
       ["        console.log(error)"],
       ["        res.status(500).json(\x7bmessage: \"Server error\", error: error\x7d)"],
       ["    \x7d"],
       ["\x7d"]]
  verb := "get"
  path := "/:id"

/-- Changes one resource. -/
def update : Endpoint where
  name := ["update", modelPascal]
  arrow := "(req,res) => "
  body :=
    Template.ofLines
      [["\x7b"],
       ["    try \x7b"],
       ["        const \x7bbody\x7d = req"],
       ["        if(!body)\x7b"],
       ["            return res.status(400).json(\x7bmessage: \"No data in the request\"\x7d)"],
       ["        \x7d"],
       [],
       ["        const \x7berror\x7d = ", modelName, "Validation(body).", modelName, "Update"],
       ["        if(error)\x7b"],
       ["            return res.status(401).json(error.details[0].message)"],
       ["        \x7d"],
       ["        const updated", modelPascal, " = await ", modelPascal,
        ".findByIdAndUpdate(req.params.id, body, \x7bnew: true\x7d)"],
       ["        if(!updated", modelPascal, ")\x7b"],
       ["            return res.status(404).json(\x7bmessage: \"", modelName,
        " doesn't exist\"\x7d)"],
       ["        \x7d"],
       ["        return res.status(200).json(updated", modelPascal, ")"],
       ["    \x7d catch (error) \x7b"],
       ["        console.log(error)"],
       ["        res.status(500).json(\x7bmessage: \"Server error\", error: error\x7d)"],
       ["    \x7d"],
       ["\x7d"]]
  verb := "put"
  path := "/:id"

/-- Deletes one resource. -/
def delete : Endpoint where
  name := ["delete", modelPascal]
  arrow := "(req, res) => "
  body :=
    Template.ofLines
      [["\x7b"],
       ["    try \x7b"],
       ["        const ", modelName, " = await ", modelPascal,
        ".findByIdAndDelete(req.params.id)"],
       ["        if(!", modelName, ")\x7b"],
       ["            return res.status(404).json(\x7bmessage: \"", modelName,
        " doesn't exist\"\x7d)"],
       ["        \x7d"],
       ["        return res.status(200).json(\x7bmessage: \"", modelName,
        " has been deleted\"\x7d)"],
       ["    \x7d catch (error) \x7b"],
       ["        console.log(error)"],
       ["        res.status(500).json(\x7bmessage: \"Server error\", error: error\x7d)"],
       ["    \x7d"],
       ["\x7d"]]
  verb := "delete"
  path := "/:id"

/-- The imports of every controller. -/
def controllerImports : Template :=
  Template.ofLines
    [["import ", modelPascal, " from \"../models/", modelName, ".model.js\""],
     ["import ", modelName, "Validation from \"../validations/", modelName, ".validation.js\""]]

/-- The endpoints of a plain resource. -/
def plainEndpoints : List Endpoint := [create, getAll, getById, update, delete]

end CrudScaffold.Boilerplate
