import BasicBench.Keyword.Entry

/-!
Drawing, images and colours.
-/

set_option autoImplicit false

namespace BasicBench.Keyword

def graphics : List Entry := [
  { name := "SCREEN", kind := .statement, category := "graphics",
    description := "Sets the screen mode or makes an image handle the display surface.",
    usage := "SCREEN \x7bmode% | imageHandle&\x7d", sample := "SCREEN _NEWIMAGE(800, 600, 32)",
    related := ["_NEWIMAGE", "CLS", "_DEST"], tags := ["graphics", "window"] },
  { name := "PSET", kind := .statement, category := "graphics",
    description := "Sets a single pixel to a colour.", usage := "PSET [STEP](x, y)[, color]",
    sample := "PSET (10, 20), _RGB32(255, 0, 0)", related := ["PRESET", "POINT", "LINE"],
    tags := ["drawing"] },
  { name := "PRESET", kind := .statement, category := "graphics",
    description := "Sets a pixel to the background colour.",
    usage := "PRESET [STEP](x, y)[, color]", related := ["PSET"] },
  { name := "POINT", kind := .function, category := "graphics",
    description := "Returns the colour of a pixel.", usage := "clr& = POINT(x, y)",
    related := ["PSET"] },
  { name := "LINE", kind := .statement, category := "graphics",
    description := "Draws a line, box or filled box.",
    usage := "LINE [(x1, y1)]-(x2, y2)[, color][, \x7bB | BF\x7d]",
    sample := "LINE (0, 0)-(100, 100), _RGB32(0, 255, 0), BF", related := ["PSET", "CIRCLE"],
    tags := ["drawing"] },
  { name := "CIRCLE", kind := .statement, category := "graphics",
    description := "Draws a circle, ellipse or arc.",
    usage := "CIRCLE [STEP](x, y), radius[, color[, start, end[, aspect]]]",
    sample := "CIRCLE (320, 240), 100, _RGB32(255, 255, 0)", related := ["LINE", "PAINT"],
    tags := ["drawing"] },
  { name := "PAINT", kind := .statement, category := "graphics",
    description := "Flood fills an area.",
    usage := "PAINT [STEP](x, y)[, fillColor[, borderColor]]", related := ["CIRCLE", "LINE"] },
  { name := "DRAW", kind := .statement, category := "graphics",
    description := "Draws using a turtle graphics command string.", usage := "DRAW commands$",
    related := ["LINE"] },
  { name := "GET", kind := .statement, category := "graphics",
    description := "Reads a screen area into an array, or a record from a file.",
    usage := "GET (x1, y1)-(x2, y2), array() | GET #n, [position], variable",
    related := ["PUT", "_PUTIMAGE"] },
  { name := "PUT", kind := .statement, category := "graphics",
    description := "Draws an array onto the screen, or writes a record to a file.",
    usage := "PUT (x, y), array() | PUT #n, [position], variable",
    related := ["GET", "_PUTIMAGE"] },
  { name := "_NEWIMAGE", kind := .function, category := "images",
    description := "Creates a new image surface and returns its handle. Free it with _FREEIMAGE.",
    usage := "handle& = _NEWIMAGE(width&, height&[, mode])",
    sample := "img& = _NEWIMAGE(640, 480, 32)",
    parameters := [{ name := "width&", type := "LONG" }, { name := "height&", type := "LONG" }, { name := "mode", type := "INTEGER", optional := true, description := "Screen mode or 32 for 32-bit colour." }],
    returns := some "LONG", related := ["_FREEIMAGE", "_PUTIMAGE", "SCREEN"], dialect := .qb64,
    tags := ["image", "handle"] },
  { name := "_FREEIMAGE", kind := .statement, category := "images",
    description := "Frees an image handle created with _NEWIMAGE or _LOADIMAGE.",
    usage := "_FREEIMAGE handle&", related := ["_NEWIMAGE", "_LOADIMAGE"], dialect := .qb64,
    tags := ["image", "handle"] },
  { name := "_LOADIMAGE", kind := .function, category := "images",
    description := "Loads an image file and returns its handle.",
    usage := "handle& = _LOADIMAGE(file$[, mode])", returns := some "LONG",
    related := ["_FREEIMAGE", "_SAVEIMAGE"], dialect := .qb64 },
  { name := "_SAVEIMAGE", kind := .statement, category := "images",
    description := "Saves an image or the screen to a file.",
    usage := "_SAVEIMAGE file$[, handle&]", related := ["_LOADIMAGE"], dialect := .qb64pe },
  { name := "_PUTIMAGE", kind := .statement, category := "images",
    description := "Copies all or part of an image onto another image or the screen.",
    usage := "_PUTIMAGE [(dx1, dy1)-(dx2, dy2)], [source&], [dest&]",
    related := ["_NEWIMAGE", "_LOADIMAGE"], dialect := .qb64, tags := ["drawing", "image"] },
  { name := "_DEST", kind := .statement, category := "images",
    description := "Sets the image that graphics statements draw to.", usage := "_DEST handle&",
    related := ["_SOURCE", "_DISPLAY"], dialect := .qb64 },
  { name := "_SOURCE", kind := .statement, category := "images",
    description := "Sets the image that POINT and GET read from.", usage := "_SOURCE handle&",
    related := ["_DEST"], dialect := .qb64 },
  { name := "_DISPLAY", kind := .statement, category := "graphics",
    description := "Shows the current page and disables automatic display refresh.",
    usage := "_DISPLAY", related := ["_AUTODISPLAY", "_LIMIT"], dialect := .qb64 },
  { name := "_AUTODISPLAY", kind := .statement, category := "graphics",
    description := "Re-enables automatic display refresh.", usage := "_AUTODISPLAY",
    related := ["_DISPLAY"], dialect := .qb64 },
  { name := "_WIDTH", kind := .function, category := "images",
    description := "Returns the width of an image or the screen.",
    usage := "w& = _WIDTH[(handle&)]", related := ["_HEIGHT"], dialect := .qb64 },
  { name := "_HEIGHT", kind := .function, category := "images",
    description := "Returns the height of an image or the screen.",
    usage := "h& = _HEIGHT[(handle&)]", related := ["_WIDTH"], dialect := .qb64 },
  { name := "_RGB", kind := .function, category := "colors",
    description := "Returns the closest colour attribute for red, green and blue values.",
    usage := "clr& = _RGB(r, g, b)", related := ["_RGB32"], dialect := .qb64 },
  { name := "_RGB32", kind := .function, category := "colors",
    description := "Returns a 32-bit colour value.", usage := "clr~& = _RGB32(r, g, b[, a])",
    related := ["_RGB", "_RGBA32"], dialect := .qb64 },
  { name := "_RGBA32", kind := .function, category := "colors",
    description := "Returns a 32-bit colour value with alpha.",
    usage := "clr~& = _RGBA32(r, g, b, a)", related := ["_RGB32"], dialect := .qb64 },
  { name := "_SCREENIMAGE", kind := .function, category := "images",
    description := "Captures the desktop into a new image.", usage := "handle& = _SCREENIMAGE",
    related := ["_SAVEIMAGE"], dialect := .qb64 },
  { name := "_GL", kind := .opengl, category := "opengl",
    description := "SUB name reserved for custom OpenGL rendering code.",
    usage := "SUB _GL\n    ' OpenGL calls\nEND SUB", related := ["_GLRENDER"], dialect := .qb64 },
  { name := "_GLRENDER", kind := .opengl, category := "opengl",
    description := "Sets whether OpenGL renders behind, on top of, or only.",
    usage := "_GLRENDER \x7b_BEHIND | _ONTOP | _ONLY\x7d", related := ["_GL"], dialect := .qb64 }]

end BasicBench.Keyword
