import CrudScaffold.Boilerplate.Plain

set_option autoImplicit false

/-! # Files of a user resource

The texts of the files of a resource that can register and log in, and of the middleware that checks
their tokens. -/

namespace CrudScaffold.Boilerplate

open Slot

/-- The schema of a user. Passwords are hashed before they are stored. -/
def userSchema : Template :=
  Template.ofLines
    [["import mongoose from 'mongoose';"],
     ["import bcrypt from 'bcrypt';"],
     [],
     ["const ", modelName, "Schema = new mongoose.Schema(\x7b"],
     [schemaFields],
     ["\x7d, \x7b timestamps: true \x7d);"],
     [],
     [modelName, "Schema.pre(\"save\", async function()\x7b"],
     ["  if(this.isModified(\"password\"))\x7b"],
     ["    this.password = await bcrypt.hash(this.password, 10)"],
     ["  \x7d"],
     ["\x7d)"],
     [],
     [modelName, "Schema.pre(\"findOneAndUpdate\", async function () \x7b"],
     ["  let update = this.getUpdate();"],
     [],
     ["  if (update.password) \x7b"],
     ["    const hashed = await bcrypt.hash(update.password, 10);"],
     [],
     ["    this.setUpdate(\x7b"],
     ["      ...update,"],
     ["      password: hashed"],
     ["    \x7d);"],
     ["  \x7d"],
     ["\x7d)"],
     [],
     ["export default mongoose.model('", modelPascal, "', ", modelName, "Schema);"]]

/-- The rules for new users, for changes and for credentials. -/
def userValidation : Template :=
  Template.ofLines
    [["import joi from \"joi\";"],
     [],
     ["export default function ", modelName, "Validation(body)\x7b"],
     ["    const ", modelName, "Create = joi.object(\x7b"],
     ["      email: joi.string().email().required(),"],
     ["      password: joi.string().required(),"],
     ["    ", createRules],
     ["    \x7d)"],
     [],
     ["    const ", modelName, "Update = joi.object(\x7b"],
     ["      email: joi.string().email(),"],
     ["      password: joi.string(),"],
     ["    ", updateRules],
     ["    \x7d)"],
     [],
     ["    const ", modelName, "Login = joi.object(\x7b"],
     ["      email: joi.string().email(),"],
     ["      password: joi.string(),"],
     ["    \x7d)"],
     [],
     ["    return \x7b"],
     ["        ", modelName, "Create: ", modelName, "Create.validate(body),"],
     ["        ", modelName, "Update: ", modelName, "Update.validate(body),"],
     ["        ", modelName, "Login: ", modelName, "Login.validate(body),"],
     ["    \x7d"],
     ["\x7d"]]

/-- What a controller of users declares before its handlers. -/
def userHelpers : Template :=
  Template.ofLines
    [["import bcrypt from 'bcrypt'"],
     ["import jwt from 'jsonwebtoken'"],
     []]

/-! ## Endpoints -/

/-- Stores a new user. -/
def register : Endpoint where
  name := ["register"]
  arrow := "(req,res)=>"
  body :=
    Template.ofLines
      [["\x7b"],
       ["    try \x7b"],
       ["        const \x7bbody\x7d = req"],
       ["        if(!body)\x7b"],
       ["            return res.status(400).json(\x7bmessage: \"No data in the request\"\x7d)"],
       ["        \x7d"],
       ["        const \x7berror\x7d = ", modelName, "Validation(body).", modelName, "Create"],
       ["        if(error)\x7b"],
       ["            return res.status(401).json(error.details[0].message)"],
       ["        \x7d"],
       ["        const search", modelPascal, " = await ", modelPascal,
        ".findOne(\x7bemail: body.email\x7d)"],
       ["        if(search", modelPascal, ")\x7b"],
       ["            return res.status(401).json(\x7bmessage: \"user already exists\"\x7d)"],
       ["        \x7d"],
       ["        const ", modelName, " = new ", modelPascal, "(body)"],
       ["        const new", modelPascal, " = await ", modelName, ".save()"],
       ["        return res.status(201).json(new", modelPascal, ")"],
       ["    \x7d catch (error) \x7b"],
       ["        console.log(error)"],
       ["        res.status(500).json(\x7bmessage: \"Server error\", error: error\x7d)"],
       ["    \x7d"],
       ["\x7d"]]
  verb := "post"
  path := "/register"

/-- Checks the credentials of a user and answers with a token. -/
def login : Endpoint where
  name := ["login"]
  arrow := "(req, res) => "
  body :=
    Template.ofLines
      [["\x7b"],
       ["    try \x7b"],
       ["        const \x7bemail, password \x7d = req.body"],
       ["        const \x7b error \x7d = ", modelName, "Validation(req.body).", modelName,
        "Login"],
       [],
       ["        if(error)\x7b"],
       ["            return res.status(401).json(error.details[0].message)"],
       ["        \x7d"],
       [],
       ["        const ", modelName, " = await ", modelPascal, ".findOne(\x7b email: email\x7d)"],
       ["        if(!", modelName, ")\x7b"],
       ["            return res.status(400).json(\x7bmessage: \"invalid credentials\"\x7d)"],
       ["        \x7d"],
       ["        const isMatch = await bcrypt.compare(password, ", modelName, ".password)"],
       ["        if(!isMatch)\x7b"],
       ["            return res.status(400).json(\x7bmessage: \"invalid credentials\"\x7d)"],
       ["        \x7d"],
       ["        res.status(200).json(\x7b"],
       ["            message: ", modelName, ".email+\" is connected\","],
       ["            token: jwt.sign(\x7b id: ", modelName, "._id, email: ", modelName,
        ".email \x7d, process.env.SECRET_KEY, \x7b expiresIn: \"12h\" \x7d)"],
       ["        \x7d)"],
       ["    \x7d catch (error) \x7b"],
       ["        console.log(error)"],
       ["        res.status(500).json(\x7bmessage: \"Server error\", error: error\x7d)"],
       ["    \x7d"],
       ["\x7d"]]
  verb := "post"
  path := "/login"

/-- The endpoints of a user resource. -/
def userEndpoints : List Endpoint := [register, login, getAll, getById, update, delete]

/-! ## Middleware -/

/-- The middleware that checks the token of a request. -/
def authMiddleware : Template :=
  Template.ofLines
    [["import jwt from \"jsonwebtoken\""],
     [],
     ["const auth = (req, res, next) => \x7b"],
     ["    const authHeader = req.headers['authorization'];"],
     ["    const token = authHeader && authHeader.split(' ')[1];"],
     ["    if (!token) \x7b"],
     ["        return res.status(401).json(\x7b message: \"Missing token\" \x7d);"],
     ["    \x7d"],
     ["    jwt.verify(token, process.env.SECRET_KEY, (err, user) => \x7b"],
     ["        if (err) return res.status(403).json(\x7b message: \"Invalid token\" \x7d);"],
     ["        req.user = user;"],
     ["        next();"],
     ["    \x7d);"],
     ["\x7d;"],
     [],
     ["export default auth;"]]

end CrudScaffold.Boilerplate
