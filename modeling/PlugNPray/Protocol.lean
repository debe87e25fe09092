import PlugNPray.Wire

/-! The codes of the shared protocol header that travel on the modelled sockets. -/
namespace PlugNPray.Protocol
open PlugNPray.Wire

def OP_FETCH : Entero := 200
def OP_OBTENER_CONTEXTO : Entero := 201
def OP_GUARDAR_CONTEXTO : Entero := 202
def OP_LEER_MEMORIA : Entero := 210
def OP_ESCRIBIR_MEMORIA : Entero := 211
def OP_LISTA_STICKS : Entero := 212
def OP_CREAR_PROCESO : Entero := 300
def OP_FINALIZAR_PROCESO : Entero := 301
def OP_SUSPENDER_PROCESO : Entero := 302
def OP_DESSUSPENDER_PROCESO : Entero := 303
def OP_COMPACTAR : Entero := 305
def OP_CREAR_SEGMENTO : Entero := 307
def OP_ELIMINAR_SEGMENTO : Entero := 308
def OP_LEER_DATOS : Entero := 309
def OP_ESCRIBIR_DATOS : Entero := 310
def OP_SWAP_LEER_BLOQUE : Entero := 320
def OP_SWAP_ESCRIBIR_BLOQUE : Entero := 321
def OP_MEMORIA_LISTA : Entero := 400
def OP_OK : Entero := 500
def OP_ERROR : Entero := 501
def OP_BLOQUEADO : Entero := 502
def OP_EJECUTAR_PROCESO : Entero := 600
def OP_INTERRUMPIR_PROCESO : Entero := 601

end PlugNPray.Protocol
