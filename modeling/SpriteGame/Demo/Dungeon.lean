/-!
# The bundled dungeon

The game and the level that the demo plays when it is given none.
-/
namespace SpriteGame.Demo

def dungeonGame : String := "BasicGame
    SpriteSet
        wall > Immovable
        goal > Door
        key > Resource limit=1
        moving >
            avatar > ShootAvatar stype=sword
            sword > Flicker limit=2 singleton=True
            goblin > RandomNPC cons=2
    InteractionSet
        moving wall > stepBack
        moving EOS > stepBack
        key avatar > collectResource scoreChange=1
        goal avatar > killIfOtherHasMore resource=key limit=1 scoreChange=5
        goblin sword > killSprite scoreChange=2
        avatar goblin > killSprite scoreChange=-1
    TerminationSet
        SpriteCounter stype=goal limit=0 win=True
        SpriteCounter stype=avatar limit=0 win=False
        Timeout limit=500 win=False
    LevelMapping
        g > goal
        k > key
        o > goblin
"

def dungeonLevel : String := "wwwwwwwwwwwww
wA    w    gw
w  o  w  o  w
w     w     w
w  wwww  ww w
w         k w
wwwwwwwwwwwww
"

end SpriteGame.Demo
