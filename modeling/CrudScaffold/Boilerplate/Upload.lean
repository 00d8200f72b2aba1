import CrudScaffold.Boilerplate.Plain

set_option autoImplicit false

/-! # Files of an uploaded resource

The texts of the files of a resource that describes an uploaded file, and of the middleware that
receives the file. An uploaded resource cannot be changed. -/

namespace CrudScaffold.Boilerplate

open Slot

/-- The rules for new data. -/
def uploadValidation : Template :=
  Template.ofLines
    [["import joi from \"joi\";"],
     [],
     ["export default function ", modelName, "Validation(body)\x7b"],
     ["    const ", modelName, "Create = joi.object(\x7b"],
     ["    ", createRules],
     ["    \x7d)"],
     [],
     ["    return \x7b"],
     ["        ", modelName, "Create: ", modelName, "Create.validate(body),"],
     ["    \x7d"],
     ["\x7d"]]

/-- What a controller of uploads declares before its handlers. -/
def uploadHelpers : Template :=
  Template.ofLines
    [["import fs from \"node:fs\""],
     ["import path from \"node:path\""],
     ["import \x7b fileURLToPath \x7d from \"node:url\";"],
     [],
     ["const __filename = fileURLToPath(import.meta.url)"],
     ["const __dirname = path.dirname(__filename)"],
     [],
     ["const removeUpload = (req) => \x7b"],
     ["    if(req.file)\x7bfs.unlinkSync(\"./uploads/\"+req.file.filename)\x7d"],
     ["\x7d"],
     []]

/-! ## Endpoints -/

/-- Stores the resource that describes an uploaded file. If anything fails, the file is removed. -/
def createUpload : Endpoint where
  name := ["create", modelPascal]
  arrow := "(req,res)=>"
  body :=
    Template.ofLines
      [["\x7b"],
       ["    try \x7b"],
       ["        const \x7bbody\x7d = req"],
       ["        if(!body)\x7b"],
       ["            removeUpload(req)"],
       ["            return res.status(400).json(\x7bmessage: \"No data in the request\"\x7d)"],
       ["        \x7d"],
       ["        if(req.file)\x7b"],
       ["            body.name = req.protocol+'://'+req.get(\"host\")+",
        "'/uploads/'+req.file.filename"],
       ["        \x7d"],
       ["        const \x7berror\x7d = ", modelName, "Validation(body).", modelName, "Create"],
       ["        if(error)\x7b"],
       ["            removeUpload(req)"],
       ["            return res.status(401).json(error.details[0].message)"],
       ["        \x7d"],
       ["        const ", modelName, " = new ", modelPascal, "(body)"],
       ["        const new", modelPascal, " = await ", modelName, ".save()"],
       ["        return res.status(201).json(new", modelPascal, ")"],
       ["    \x7d catch (error) \x7b"],
       ["        console.log(error)"],
       ["        removeUpload(req)"],
       ["        res.status(500).json(\x7bmessage: \"Server error\", error: error\x7d)"],
       ["    \x7d"],
       ["\x7d"]]
  verb := "post"
  path := "/new"
  before := "upload.single('name'), "

/-- Deletes one resource and its file. -/
def deleteUpload : Endpoint where
  name := ["delete", modelPascal]
  arrow := "(req, res) => "
  body :=
    Template.ofLines
      [["\x7b"],
       ["    try \x7b"],
       ["        const ", modelName, " = await ", modelPascal, ".findById(req.params.id)"],
       ["        if(!", modelName, ")\x7b"],
       ["            return res.status(404).json(\x7bmessage: \"", modelName,
        " doesn't exist\"\x7d)"],
       ["        \x7d"],
       ["        if(", modelName, ".name)\x7b"],
       ["            const oldPath = path.join(__dirname, '../uploads/', ", modelName,
        ".name.split('/').at(-1))"],
       ["            if(fs.existsSync(oldPath)) \x7bfs.unlinkSync(oldPath)\x7d"],
       ["        \x7d"],
       ["        await ", modelName, ".deleteOne()"],
       ["        return res.status(200).json(\x7bmessage: \"", modelName,
        " has been deleted\"\x7d)"],
       ["    \x7d catch (error) \x7b"],
       ["        console.log(error)"],
       ["        res.status(500).json(\x7bmessage: \"Server error\", error: error\x7d)"],
       ["    \x7d"],
       ["\x7d"]]
  verb := "delete"
  path := "/:id"

/-- The endpoints of an uploaded resource. -/
def uploadEndpoints : List Endpoint := [createUpload, getAll, getById, deleteUpload]

/-! ## Middleware -/

/-- How a router imports the middleware. -/
def uploadImport : Template :=
  Template.ofLines [["import \x7b upload \x7d from \"../middlewares/multer.js\""]]

/-- Where uploaded files are stored, and under which names. -/
def uploadStorage : Template :=
  Template.ofLines
    [["import multer from \"multer\";"],
     ["import path from \"node:path\";"],
     ["import fs from \"node:fs\";"],
     ["import \x7b fileURLToPath \x7d from \"node:url\";"],
     [],
     ["const __filename = fileURLToPath(import.meta.url)"],
     ["const __dirname = path.dirname(__filename)"],
     [],
     ["const uploadDir = path.join(__dirname, '../uploads')"],
     ["if(!fs.existsSync(uploadDir)) \x7bfs.mkdirSync(uploadDir, \x7brecursive: true\x7d)\x7d"],
     [],
     ["const storage = multer.diskStorage(\x7b"],
     ["    destination: (req, file, cb) => \x7b"],
     ["        cb(null, uploadDir)"],
     ["    \x7d,"],
     ["    filename: (req, file, cb) => \x7b"],
     ["        const ext = path.extname(file.originalname)"],
     ["        const baseName = path.basename(file.originalname, ext)"],
     ["        cb(null, baseName+'_'+Date.now()+ext)"],
     ["    \x7d"],
     ["\x7d)"],
     []]

/-- Which files are accepted. -/
def uploadFilter : Template :=
  Template.ofLines
    [["const fileFilter = (req, file, cb) => \x7b"],
     ["    // allowed mimetypes"],
     ["    const allowedMimeTypes = ['image/jpeg', 'image/png', 'image/gif']"],
     ["    if(allowedMimeTypes.includes(file.mimetype))\x7b"],
     ["        cb(null, true)"],
     ["    \x7delse\x7b"],
     ["        cb(new Error(\"File type not allowed\"), false)"],
     ["    \x7d"],
     ["\x7d"],
     [],
     ["export const upload = multer(\x7b"],
     ["    storage: storage,"],
     ["    fileFilter: fileFilter,"],
     ["    // max size per file and max number of files"],
     ["    limits: \x7b"],
     ["        fileSize: 5 * 1024 * 1024,"],
     ["        files: 5,"],
     ["    \x7d"],
     ["\x7d)"]]

/-- The middleware that stores uploaded files. -/
def uploadMiddleware : Template := uploadStorage ++ uploadFilter

end CrudScaffold.Boilerplate
